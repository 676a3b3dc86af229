import IntelAmt.Foundation.Exec
import IntelAmt.Ider.MediaImage

/-!
# Engine state and outbound traffic

The attributes of the engine that message handlers work on, the images it
holds references to, and the effects it has had so far: the frames handed to
`send` and the bytes handed to a backing file.
-/

namespace IntelAmt
namespace Ider

open Foundation

/-- What a method of the engine can raise.  `outOfFuel` is no exception of the
source: a modelled loop would raise it if it did not end. -/
inductive PyError where
  | protocol (e : ProtocolError)
  | struct
  | index
  | outOfFuel
deriving DecidableEq, Repr

structure OpenSessionInfo where
  major : Nat := 0
  minor : Nat := 0
  fwMajor : Nat := 0
  fwMinor : Nat := 0
  readbfr : Nat := 0
  writebfr : Nat := 0
  proto : Nat := 0
  iana : Nat := 0
deriving DecidableEq, Repr

section State

variable (ref : Type)

/-- Recorded between a write command and the frames that carry its payload,
which may be several. -/
structure PendingWrite where
  device : DeviceCode
  image : ref
  byteOffset : Nat
  expectedLength : Nat
  received : Nat := 0
deriving DecidableEq, Repr

structure ReadRequest where
  device : DeviceCode
  image : ref
  byteOffset : Nat
  remaining : Nat
  dma : Bool
deriving DecidableEq, Repr

inductive Effect where
  | sent (frame : Bytes)
  | wrote (image : ref) (offset : Nat) (data : Bytes)
deriving DecidableEq, Repr

/-- What message handlers read and write.  Images are objects that the engine
refers to, so the same image keeps its counters wherever it is referred
from. -/
structure HandlerState where
  startMode : StartMode
  rxTimeout : Nat
  txTimeout : Nat
  heartbeat : Nat
  outSeq : Nat := 0
  stopped : Bool := false
  devices : DeviceCode -> Option ref := fun _ => none
  sessionInfo : OpenSessionInfo := {}
  sessionOpen : Bool := false
  enabled : Bool := false
  featureToggleOk : Option Bool := none
  errorsSeen : Bytes := []
  pendingWrite : Option (PendingWrite ref) := none
  readState : Option (ReadRequest ref) := none
  readQueue : List (ReadRequest ref) := []
  resetPending : Bool := false
  bytesToAmt : Nat := 0
  images : ref -> MediaImage
  trace : List (Effect ref) := []

abbrev EngineM (alpha : Type) : Type :=
  Exec PyError (HandlerState ref) alpha

end State

variable {ref : Type}

/-!
## Taking bytes apart
-/

section Unpack

variable {state alpha : Type}

def byteAt (bytes : Bytes) (k : Nat) : Exec PyError state UInt8 :=
  if k < bytes.length then pure (bytes.getD k 0)
  else Exec.raise PyError.index

def unpackLE (width : Nat) (bytes : Bytes) (offset : Nat) :
    Exec PyError state Nat :=
  if offset + width ≤ bytes.length then
    pure (leNat (slice bytes offset width))
  else Exec.raise PyError.struct

def unpackBE (width : Nat) (bytes : Bytes) (offset : Nat) :
    Exec PyError state Nat :=
  if offset + width ≤ bytes.length then
    pure (beNat (slice bytes offset width))
  else Exec.raise PyError.struct

def checkedPackLE (width n : Nat) : Exec PyError state Bytes :=
  if n < 256 ^ width then pure (packLE width n)
  else Exec.raise PyError.struct

/-- Pack an integer that may be negative, which does not fit. -/
def checkedPackBE (width : Nat) (n : Int) : Exec PyError state Bytes :=
  if 0 ≤ n ∧ n < 256 ^ width then pure (packBE width n.toNat)
  else Exec.raise PyError.struct

@[simp] theorem run_byteAt_bind {bytes : Bytes} {k : Nat}
    (h : k < bytes.length) (f : UInt8 -> Exec PyError state alpha)
    (s : state) :
    (byteAt bytes k >>= f).run s = (f (bytes.getD k 0)).run s := by
  simp [byteAt, h]

@[simp] theorem run_unpackLE_bind {bytes : Bytes} {width offset : Nat}
    (h : offset + width ≤ bytes.length)
    (f : Nat -> Exec PyError state alpha) (s : state) :
    (unpackLE width bytes offset >>= f).run s =
      (f (leNat (slice bytes offset width))).run s := by
  simp [unpackLE, h]

@[simp] theorem run_unpackBE_bind {bytes : Bytes} {width offset : Nat}
    (h : offset + width ≤ bytes.length)
    (f : Nat -> Exec PyError state alpha) (s : state) :
    (unpackBE width bytes offset >>= f).run s =
      (f (beNat (slice bytes offset width))).run s := by
  simp [unpackBE, h]

@[simp] theorem run_checkedPackLE_bind {width n : Nat} (h : n < 256 ^ width)
    (f : Bytes -> Exec PyError state alpha) (s : state) :
    (checkedPackLE width n >>= f).run s = (f (packLE width n)).run s := by
  simp [checkedPackLE, h]

end Unpack

/-!
## Outbound framing
-/

/-- The state after a frame has been handed to `send`. -/
def HandlerState.send (s : HandlerState ref) (out : Outbound) :
    HandlerState ref :=
  { s with
    outSeq := (s.outSeq + 1) % 2 ^ 32
    bytesToAmt := s.bytesToAmt + (out.frame s.outSeq).length
    trace := s.trace ++ [Effect.sent (out.frame s.outSeq)] }

def sendOutbound (out : Outbound) : EngineM ref Unit :=
  Exec.update fun s => s.send out

def sendCommand (cmdid : UInt8) (payload : Bytes) : EngineM ref Unit :=
  sendOutbound
    { cmdid := cmdid, payload := payload, completed := false, dma := false }

def sendDisableEnableFeatures (featureType : UInt8) (data : Bytes) :
    EngineM ref Unit :=
  sendCommand cmdDisableEnableFeatures (featureType :: data)

def sendCommandEndResponse (error : Bool) (sense : UInt8)
    (device : DeviceCode) (asc asq : UInt8) : EngineM ref Unit :=
  sendOutbound (commandEndResponse error sense device.code asc asq)

def sendDataToHost (device : UInt8) (completed : Bool) (data : Bytes)
    (dma : Bool) : EngineM ref Unit :=
  sendOutbound (dataToHost device completed data dma)

def sendGetDataFromHost (device : DeviceCode) (chunk : Nat) :
    EngineM ref Unit :=
  sendOutbound (getDataFromHost device.code chunk)

@[simp] theorem run_sendOutbound (out : Outbound) (s : HandlerState ref) :
    (sendOutbound out).run s = (Except.ok (), s.send out) := rfl

@[simp] theorem run_sendOutbound_bind {alpha : Type} (out : Outbound)
    (f : Unit -> EngineM ref alpha) (s : HandlerState ref) :
    (sendOutbound out >>= f).run s = (f ()).run (s.send out) := rfl

/-- Several frames, one after the other. -/
def HandlerState.sendAll (s : HandlerState ref) (outs : List Outbound) :
    HandlerState ref :=
  outs.foldl HandlerState.send s

namespace HandlerState

variable (s : HandlerState ref) (out : Outbound) (outs : List Outbound)

@[simp] theorem sendAll_nil : s.sendAll [] = s := rfl

@[simp] theorem sendAll_cons :
    s.sendAll (out :: outs) = (s.send out).sendAll outs := rfl

@[simp] theorem sendAll_append (more : List Outbound) :
    s.sendAll (outs ++ more) = (s.sendAll outs).sendAll more := by
  simp [sendAll]

theorem sendAll_keeps {alpha : Type} {f : HandlerState ref -> alpha}
    (h : forall (s : HandlerState ref) (out : Outbound),
      f (s.send out) = f s) : f (s.sendAll outs) = f s := by
  induction outs generalizing s with
  | nil => rfl
  | cons out outs ih => rw [sendAll_cons, ih, h]

@[simp] theorem sendAll_devices : (s.sendAll outs).devices = s.devices :=
  sendAll_keeps s outs fun _ _ => rfl

@[simp] theorem sendAll_images : (s.sendAll outs).images = s.images :=
  sendAll_keeps s outs fun _ _ => rfl

@[simp] theorem sendAll_pendingWrite :
    (s.sendAll outs).pendingWrite = s.pendingWrite :=
  sendAll_keeps s outs fun _ _ => rfl

@[simp] theorem sendAll_readState :
    (s.sendAll outs).readState = s.readState :=
  sendAll_keeps s outs fun _ _ => rfl

@[simp] theorem sendAll_readQueue :
    (s.sendAll outs).readQueue = s.readQueue :=
  sendAll_keeps s outs fun _ _ => rfl

@[simp] theorem sendAll_resetPending :
    (s.sendAll outs).resetPending = s.resetPending :=
  sendAll_keeps s outs fun _ _ => rfl

@[simp] theorem sendAll_sessionInfo :
    (s.sendAll outs).sessionInfo = s.sessionInfo :=
  sendAll_keeps s outs fun _ _ => rfl

@[simp] theorem sendAll_sessionOpen :
    (s.sendAll outs).sessionOpen = s.sessionOpen :=
  sendAll_keeps s outs fun _ _ => rfl

@[simp] theorem sendAll_featureToggleOk :
    (s.sendAll outs).featureToggleOk = s.featureToggleOk :=
  sendAll_keeps s outs fun _ _ => rfl

@[simp] theorem sendAll_stopped : (s.sendAll outs).stopped = s.stopped :=
  sendAll_keeps s outs fun _ _ => rfl

end HandlerState

/-- The frames of successive messages, numbered from `seq` on. -/
def numbered : Nat -> List Outbound -> List Bytes
  | _, [] => []
  | seq, out :: outs => out.frame seq :: numbered ((seq + 1) % 2 ^ 32) outs

@[simp] theorem numbered_length (seq : Nat) (outs : List Outbound) :
    (numbered seq outs).length = outs.length := by
  induction outs generalizing seq with
  | nil => rfl
  | cons out outs ih => rw [numbered, List.length_cons, ih, List.length_cons]

/-!
## Images
-/

section Images

variable [DecidableEq ref]

def HandlerState.setImage (s : HandlerState ref) (i : ref)
    (image : MediaImage) : HandlerState ref :=
  { s with images := fun j => if j = i then image else s.images j }

@[simp] theorem HandlerState.setImage_images (s : HandlerState ref) (i : ref)
    (image : MediaImage) : (s.setImage i image).images i = image := by
  simp [HandlerState.setImage]

theorem HandlerState.setImage_images_of_ne (s : HandlerState ref) {i j : ref}
    (h : j ≠ i) (image : MediaImage) :
    (s.setImage i image).images j = s.images j := by
  simp [HandlerState.setImage, h]

@[simp] theorem HandlerState.setImage_devices (s : HandlerState ref)
    (i : ref) (image : MediaImage) :
    (s.setImage i image).devices = s.devices := rfl

@[simp] theorem HandlerState.setImage_pendingWrite (s : HandlerState ref)
    (i : ref) (image : MediaImage) :
    (s.setImage i image).pendingWrite = s.pendingWrite := rfl

@[simp] theorem HandlerState.setImage_readState (s : HandlerState ref)
    (i : ref) (image : MediaImage) :
    (s.setImage i image).readState = s.readState := rfl

@[simp] theorem HandlerState.setImage_readQueue (s : HandlerState ref)
    (i : ref) (image : MediaImage) :
    (s.setImage i image).readQueue = s.readQueue := rfl

@[simp] theorem HandlerState.setImage_resetPending (s : HandlerState ref)
    (i : ref) (image : MediaImage) :
    (s.setImage i image).resetPending = s.resetPending := rfl

@[simp] theorem HandlerState.setImage_sessionInfo (s : HandlerState ref)
    (i : ref) (image : MediaImage) :
    (s.setImage i image).sessionInfo = s.sessionInfo := rfl

@[simp] theorem HandlerState.setImage_stopped (s : HandlerState ref)
    (i : ref) (image : MediaImage) :
    (s.setImage i image).stopped = s.stopped := rfl

@[simp] theorem HandlerState.setImage_outSeq (s : HandlerState ref)
    (i : ref) (image : MediaImage) :
    (s.setImage i image).outSeq = s.outSeq := rfl

@[simp] theorem HandlerState.setImage_trace (s : HandlerState ref)
    (i : ref) (image : MediaImage) :
    (s.setImage i image).trace = s.trace := rfl

@[simp] theorem HandlerState.setImage_setImage (s : HandlerState ref)
    (i : ref) (image image' : MediaImage) :
    (s.setImage i image).setImage i image' = s.setImage i image' := by
  unfold HandlerState.setImage
  congr 1
  funext j
  by_cases hj : j = i <;> simp [hj]

def imageRead (i : ref) (offset length : Nat) : EngineM ref Bytes :=
  ⟨fun s =>
    let result := (s.images i).read offset length
    (Except.ok result.1, s.setImage i result.2)⟩

@[simp] theorem run_imageRead_bind {alpha : Type} (i : ref)
    (offset length : Nat) (f : Bytes -> EngineM ref alpha)
    (s : HandlerState ref) :
    (imageRead i offset length >>= f).run s =
      (f ((s.images i).read offset length).1).run
        (s.setImage i ((s.images i).read offset length).2) := rfl

/-- The bytes that reach the backing file are recorded as an effect. -/
def imageWrite (i : ref) (offset : Nat) (data : Bytes) : EngineM ref Unit :=
  ⟨fun s =>
    match (s.images i).write offset data with
    | Except.error e => (Except.error (PyError.protocol e), s)
    | Except.ok image =>
        (Except.ok (),
          { s.setImage i image with
            trace := s.trace ++ [Effect.wrote i offset data] })⟩

theorem run_imageWrite_of_ok {s : HandlerState ref} {i : ref} {offset : Nat}
    {data : Bytes} {image : MediaImage}
    (h : (s.images i).write offset data = Except.ok image) :
    (imageWrite i offset data).run s =
      (Except.ok (),
        { s.setImage i image with
          trace := s.trace ++ [Effect.wrote i offset data] }) := by
  unfold imageWrite
  simp only [h]

theorem run_imageWrite_of_error {s : HandlerState ref} {i : ref}
    {offset : Nat} {data : Bytes} {e : ProtocolError}
    (h : (s.images i).write offset data = Except.error e) :
    (imageWrite i offset data).run s =
      (Except.error (PyError.protocol e), s) := by
  unfold imageWrite
  simp only [h]

end Images

/-!
## Views of the trace
-/

section Trace

/-- The frames handed to `send`, in order. -/
def sentFrames (trace : List (Effect ref)) : List Bytes :=
  trace.filterMap fun
    | Effect.sent frame => some frame
    | Effect.wrote _ _ _ => none

@[simp] theorem sentFrames_nil :
    sentFrames ([] : List (Effect ref)) = [] := rfl

@[simp] theorem sentFrames_append (trace more : List (Effect ref)) :
    sentFrames (trace ++ more) = sentFrames trace ++ sentFrames more :=
  List.filterMap_append ..

@[simp] theorem sentFrames_sent (frame : Bytes) :
    sentFrames [(Effect.sent frame : Effect ref)] = [frame] := rfl

@[simp] theorem sentFrames_wrote (i : ref) (offset : Nat) (data : Bytes) :
    sentFrames [Effect.wrote i offset data] = [] := rfl

@[simp] theorem sentFrames_send (s : HandlerState ref) (out : Outbound) :
    sentFrames (s.send out).trace =
      sentFrames s.trace ++ [out.frame s.outSeq] := by
  simp [HandlerState.send]

@[simp] theorem sentFrames_sendAll (s : HandlerState ref)
    (outs : List Outbound) :
    sentFrames (s.sendAll outs).trace =
      sentFrames s.trace ++ numbered s.outSeq outs := by
  induction outs generalizing s with
  | nil => simp [numbered]
  | cons out outs ih =>
      rw [HandlerState.sendAll_cons, ih, sentFrames_send, numbered,
        List.append_assoc]
      rfl

variable [DecidableEq ref]

/-- What has been handed to the backing file of an image, in order. -/
def writtenTo (i : ref) (trace : List (Effect ref)) : List (Nat × Bytes) :=
  trace.filterMap fun
    | Effect.sent _ => none
    | Effect.wrote j offset data => if j = i then some (offset, data) else none

@[simp] theorem writtenTo_append (i : ref) (trace more : List (Effect ref)) :
    writtenTo i (trace ++ more) = writtenTo i trace ++ writtenTo i more :=
  List.filterMap_append ..

@[simp] theorem writtenTo_sent (i : ref) (frame : Bytes) :
    writtenTo i [(Effect.sent frame : Effect ref)] = [] := rfl

@[simp] theorem writtenTo_wrote (i j : ref) (offset : Nat) (data : Bytes) :
    writtenTo i [Effect.wrote j offset data] =
      if j = i then [(offset, data)] else [] := by
  by_cases hij : j = i <;> simp [writtenTo, hij]

@[simp] theorem writtenTo_send (i : ref) (s : HandlerState ref)
    (out : Outbound) : writtenTo i (s.send out).trace = writtenTo i s.trace := by
  simp [HandlerState.send]

@[simp] theorem writtenTo_sendAll (i : ref) (s : HandlerState ref)
    (outs : List Outbound) :
    writtenTo i (s.sendAll outs).trace = writtenTo i s.trace :=
  HandlerState.sendAll_keeps
    (f := fun t : HandlerState ref => writtenTo i t.trace) s outs
    (writtenTo_send i)

end Trace

/-- OPEN_SESSION; sent once, right after the redirection handshake. -/
def startSession : EngineM ref Unit := do
  let s ← Exec.reads id
  let rx ← checkedPackLE 2 s.rxTimeout
  let tx ← checkedPackLE 2 s.txTimeout
  let heartbeat ← checkedPackLE 2 s.heartbeat
  let version ← checkedPackLE 4 1
  sendCommand cmdOpenSession (rx ++ tx ++ heartbeat ++ version)

/-- The image answers for the slot of its own device code. -/
def attachDevice (i : ref) : EngineM ref Unit :=
  Exec.update fun s =>
    { s with
      devices := fun d =>
        if d = (s.images i).deviceCode then some i else s.devices d }

end Ider
end IntelAmt
