import IntelAmt.Ider.ReadFrames

/-!
# Frames as firmware writes and reads them

The builders and parsers of the server that plays firmware, one for each row
of the wire format, and that it reads what the engine writes and writes what
the engine reads.
-/

namespace IntelAmt
namespace IderServer

open Foundation Ider

/-!
## Builders
-/

/-- An integer in so many bytes, which refuses one that does not fit. -/
def toBytes (length n : Nat) : Option Bytes :=
  if n < 256 ^ length then some (packLE length n) else none

def encodeHeader (cmdid : UInt8) (seq : Nat) (completed dma : Bool) :
    Option Bytes := do
  let attributes : UInt8 := if dma then 0x01 else 0x00
  let attributes :=
    if completed && decide (50 < cmdid) then attributes ||| 0x02
    else attributes
  let packed ← toBytes 4 seq
  some (([cmdid, 0x00, 0x00, attributes] : Bytes) ++ packed)

/-- OPEN_SESSION_REPLY behind the header: version 1.0, firmware 10.0, and no
trailing bytes. -/
def encodeOpenSessionReply (readbfr writebfr proto : Nat) :
    Option Bytes := do
  let readbfr ← toBytes 2 readbfr
  let writebfr ← toBytes 2 writebfr
  let proto ← toBytes 1 proto
  some (([1, 0, 10, 0, 0, 0, 0, 0] : Bytes) ++ readbfr ++ writebfr ++ [0] ++
    proto ++ [0, 0, 0] ++ [0, 0, 0, 0] ++ [0])

def encodeStatusData (statusType : UInt8) (value : Nat) : Option Bytes :=
  (toBytes 4 value).map fun packed => statusType :: packed

def encodeCommandWritten (cdb : Bytes) (deviceFlags : UInt8)
    (featureRegister : UInt8) : Option Bytes :=
  if cdb.length ≠ 12 then none
  else
    some (([0, featureRegister, 0, 0, 0, 0, deviceFlags, 0] : Bytes) ++ cdb)

def encodeDataFromHost (chunk : Bytes) : Option Bytes :=
  (toBytes 2 chunk.length).map fun packed =>
    ([0x00] : Bytes) ++ packed ++ [0, 0, 0] ++ chunk

def encodeResetOccurred (resetMask : UInt8) : Bytes := [resetMask]

def encodeErrorOccurred (code : UInt8) : Bytes := [code, 0x00, 0x00]

/-!
## Parsers
-/

inductive DecodeError where
  | headerLength (got : Nat)
  | commandEndLength (got : Nat)
  | commandEndMarker (marker : UInt8)
  | dataToHostShort
  | dataToHostTruncated
  | getDataLength (got : Nat)
deriving DecidableEq, Repr

def decodeHeader (data : Bytes) :
    Except DecodeError (UInt8 × UInt8 × Nat) :=
  if data.length ≠ 8 then Except.error (.headerLength data.length)
  else Except.ok (data.getD 0 0, data.getD 3 0, leNat (slice data 4 4))

/-- The error form carries no sense triple. -/
structure CommandEndResponse where
  error : Bool
  device : UInt8
  sense : Option UInt8 := none
  asc : Option UInt8 := none
  asq : Option UInt8 := none
deriving DecidableEq, Repr

def decodeCommandEndResponse (payload : Bytes) :
    Except DecodeError CommandEndResponse :=
  if payload.length ≠ 23 then
    Except.error (.commandEndLength payload.length)
  else if payload.getD 12 0 = 0xC5 then
    Except.ok { error := true, device := payload.getD 18 0 }
  else if payload.getD 12 0 = 0x87 then
    Except.ok
      { error := false
        device := payload.getD 18 0
        sense := some (payload.getD 20 0)
        asc := some (payload.getD 21 0)
        asq := some (payload.getD 22 0) }
  else Except.error (.commandEndMarker (payload.getD 12 0))

structure DataToHostFrame where
  device : UInt8
  data : Bytes
  completed : Bool
  dma : Bool
deriving DecidableEq, Repr

/-- The length in the prefix of a data frame. -/
def dataLength (front : Bytes) : Nat := leNat (slice front 1 2)

def decodeDataToHost (payload : Bytes) :
    Except DecodeError DataToHostFrame :=
  if payload.length < 26 then Except.error .dataToHostShort
  else
    let length := dataLength payload
    let data := slice payload 26 length
    if data.length ≠ length then Except.error .dataToHostTruncated
    else
      Except.ok
        { device := payload.getD 10 0
          data := data
          completed := payload.getD 12 0 = 0x85
          dma := payload.getD 4 0 = 0xB4 }

structure GetDataFromHostRequest where
  device : UInt8
  chunk : Nat
deriving DecidableEq, Repr

def decodeGetDataFromHost (payload : Bytes) :
    Except DecodeError GetDataFromHostRequest :=
  if payload.length ≠ 23 then Except.error (.getDataLength payload.length)
  else
    Except.ok
      { device := payload.getD 10 0, chunk := dataLength payload }

/-!
## It reads what the engine writes
-/

theorem decodeHeader_header (cmdid : UInt8) (seq : Nat)
    (completed dma : Bool) :
    exists attributes,
      decodeHeader (header cmdid seq completed dma) =
        Except.ok (cmdid, attributes, seq % 2 ^ 32) := by
  refine ⟨frameAttributes (header cmdid seq completed dma), ?_⟩
  have hslice : slice (header cmdid seq completed dma) 4 4 =
      packLE 4 (seq % 2 ^ 32) := rfl
  rw [decodeHeader, if_neg (by simp), hslice, leNat_packLE]
  simp only [show (256 : Nat) ^ 4 = 2 ^ 32 from rfl, Nat.mod_mod]
  rfl

theorem decodeCommandEndResponse_payload (error : Bool)
    (sense device asc asq : UInt8) :
    decodeCommandEndResponse
        (commandEndResponse error sense device asc asq).payload =
      Except.ok
        (if error then { error := true, device := device }
        else
          { error := false
            device := device
            sense := some sense
            asc := some asc
            asq := some asq }) := by
  cases error <;> rfl

theorem dataToHost_length (device : UInt8) (completed : Bool) (data : Bytes)
    (dma : Bool) :
    (dataToHost device completed data dma).payload.length =
      26 + data.length := by
  cases completed <;> simp [dataToHost] <;> lia

theorem dataLength_dataToHost {data : Bytes} (h : data.length < 2 ^ 16)
    (device : UInt8) (completed dma : Bool) :
    dataLength (dataToHost device completed data dma).payload =
      data.length := by
  rw [dataLength]
  exact leNat_pair h

theorem decodeDataToHost_payload {data : Bytes} (h : data.length < 2 ^ 16)
    (device : UInt8) (completed dma : Bool) :
    decodeDataToHost (dataToHost device completed data dma).payload =
      Except.ok
        { device := device
          data := data
          completed := completed
          dma := dma } := by
  have hdata : slice (dataToHost device completed data dma).payload 26
      data.length = data := by
    rw [slice]
    have hdrop : (dataToHost device completed data dma).payload.drop 26 =
        data := by
      cases completed <;> rfl
    rw [hdrop, List.take_length]
  rw [decodeDataToHost, if_neg (by rw [dataToHost_length]; lia)]
  simp only [dataLength_dataToHost h, hdata, ne_eq, not_true, if_false]
  cases completed <;> cases dma <;> rfl

theorem decodeGetDataFromHost_payload (device : UInt8) (chunk : Nat) :
    decodeGetDataFromHost (getDataFromHost device chunk).payload =
      Except.ok { device := device, chunk := chunk % 2 ^ 16 } := by
  have hpair : leNat [UInt8.ofNat (chunk % 256),
      UInt8.ofNat (chunk / 256 % 256)] = chunk % 2 ^ 16 :=
    leNat_packLE 2 chunk
  rw [decodeGetDataFromHost, if_neg (by simp [getDataFromHost])]
  exact congrArg (fun n => Except.ok (GetDataFromHostRequest.mk device n))
    hpair

/-!
## It writes what the engine reads
-/

theorem toBytes_eq_some {length n : Nat} {bytes : Bytes}
    (h : toBytes length n = some bytes) :
    n < 256 ^ length ∧ bytes = packLE length n := by
  unfold toBytes at h
  split at h
  · cases h
    exact ⟨by assumption, rfl⟩
  · cases h

theorem encodeHeader_eq_some {cmdid : UInt8} {seq : Nat} {bytes : Bytes}
    (h : encodeHeader cmdid seq false false = some bytes) :
    seq < 2 ^ 32 ∧ bytes = inboundHeader cmdid seq := by
  rw [encodeHeader, Option.bind_eq_bind, Option.bind_eq_some_iff] at h
  rcases h with ⟨packed, hpacked, hbytes⟩
  rcases toBytes_eq_some hpacked with ⟨hlt, rfl⟩
  cases hbytes
  exact ⟨hlt, rfl⟩

end IderServer
end IntelAmt
