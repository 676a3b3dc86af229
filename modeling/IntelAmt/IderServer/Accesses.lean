import IntelAmt.Ider.Blocks
import IntelAmt.IderServer.Server

/-!
# What a host does with its media

A host reads and writes ranges of blocks of the two slots.  It drives the
server for each access, sends the payload of a write that was asked for, and
reads the answer off the event queue.
-/

namespace IntelAmt
namespace IderServer

open Foundation Ider

/-- The device in each slot, when there is one. -/
abbrev Slots : Type := DeviceCode -> Option (BlockDevice Bytes)

namespace Slots

def put (slots : Slots) (device : DeviceCode) (d : BlockDevice Bytes) :
    Slots :=
  fun other => if other = device then some d else slots other

/-- There is nothing to write to in the slot of the CD/DVD drive. -/
def target (slots : Slots) (device : DeviceCode) :
    Access Bytes -> Option (BlockDevice Bytes)
  | Access.read _ _ => slots device
  | Access.write _ _ =>
      if device = DeviceCode.floppy then slots device else none

def perform (slots : Slots) (device : DeviceCode) (access : Access Bytes) :
    AccessResult Bytes × Slots :=
  match slots.target device access with
  | none => (AccessResult.absent, slots)
  | some d =>
      ((d.perform access).1, slots.put device (d.perform access).2)

end Slots

/-- An access to a slot, with or without DMA; the payload of a write is sent
in frames of the given size. -/
structure HostAccess where
  device : DeviceCode
  access : Access Bytes
  featureRegister : UInt8 := 0
  frameSize : Nat := 512
deriving DecidableEq, Repr

namespace HostAccess

def cdb (a : HostAccess) : Bytes :=
  match a.access with
  | Access.read first length => extentCdb opRead10 first length
  | Access.write first blocks => extentCdb opWrite10 first blocks.length

def payload (a : HostAccess) (outcome : AccessResult Bytes) : List Drive :=
  match a.access, outcome with
  | Access.write _ blocks, AccessResult.stored =>
      [Drive.sendDataFromHost blocks.flatten a.frameSize]
  | _, _ => []

def drives (a : HostAccess) (outcome : AccessResult Bytes) : List Drive :=
  Drive.issueScsi a.cdb a.device.code a.featureRegister :: a.payload outcome

/-- The range fits the command, and the payload its frames. -/
def Fits (a : HostAccess) : Prop :=
  match a.access with
  | Access.read first length => first < 2 ^ 32 ∧ length < 2 ^ 16
  | Access.write first blocks =>
      first < 2 ^ 32 ∧ blocks.length < 2 ^ 16 ∧
        (forall block, block ∈ blocks -> block.length = 512) ∧
        0 < a.frameSize ∧ a.frameSize < 2 ^ 16

end HostAccess

def outcomes : Slots -> List HostAccess -> List (AccessResult Bytes)
  | _, [] => []
  | slots, a :: rest =>
      let result := slots.perform a.device a.access
      result.1 :: outcomes result.2 rest

def behind : Slots -> List HostAccess -> Slots
  | slots, [] => slots
  | slots, a :: rest => behind (slots.perform a.device a.access).2 rest

/-- The host waits for the answer to an access before it sends a payload. -/
def script : Slots -> List HostAccess -> List Drive
  | _, [] => []
  | slots, a :: rest =>
      let result := slots.perform a.device a.access
      a.drives result.1 ++ script result.2 rest

/-!
## Answers
-/

/-- Data frames up to the first that is completed, as one stream, and which of
them were; what is left of the queue.  Anything else on the queue raises, and so
does an empty queue when the time is over. -/
def readDataToHostStream : List Event -> Option (Bytes × List Bool × List Event)
  | Event.dataToHost frame :: events =>
      if frame.completed then some (frame.data, [true], events)
      else
        (readDataToHostStream events).map fun (data, completed, rest) =>
          (frame.data ++ data, false :: completed, rest)
  | _ => none

/-- The refusals come without a sense triple, and so does the end of an access
to nothing. -/
def refusal (device : DeviceCode) : Event :=
  Event.commandEnd { error := true, device := device.code }

def ending (device : DeviceCode) (sense asc asq : UInt8) : Event :=
  Event.commandEnd
    { error := false
      device := device.code
      sense := some sense
      asc := some asc
      asq := some asq }

/-- How the host learns of an outcome. -/
inductive Answers (a : HostAccess) : AccessResult Bytes -> List Event -> Prop where
  | blocks (blocks : List Bytes) (events : List Event) (earlier : Nat)
      (hstream : readDataToHostStream events =
        some (blocks.flatten, List.replicate earlier false ++ [true], [])) :
      Answers a (AccessResult.blocks blocks) events
  | stored (first : Nat) (blocks : List Bytes)
      (hwrite : a.access = Access.write first blocks) :
      Answers a AccessResult.stored
        [Event.getDataFromHost
            { device := a.device.code, chunk := 512 * blocks.length % 2 ^ 16 },
          ending a.device 0x00 0x00 0x00]
  | nothing : Answers a AccessResult.nothing [refusal a.device]
  | outOfRange : Answers a AccessResult.outOfRange [refusal a.device]
  | absent : Answers a AccessResult.absent [refusal a.device]
  | readOnly : Answers a AccessResult.readOnly [ending a.device 0x07 0x27 0x00]

theorem readDataToHostStream_chunks (device : UInt8) (dma : Bool)
    (chunks : List Bytes) (final : Bytes) :
    readDataToHostStream
        ((chunks.map fun data => Event.dataToHost
            { device := device, data := data, completed := false, dma := dma })
          ++ [Event.dataToHost
            { device := device
              data := final
              completed := true
              dma := dma }]) =
      some (chunks.flatten ++ final,
        List.replicate chunks.length false ++ [true], []) := by
  induction chunks with
  | nil => rfl
  | cons chunk chunks ih =>
      rw [List.map_cons, List.cons_append, readDataToHostStream, ih,
        List.flatten_cons, List.length_cons, List.replicate_succ,
        List.append_assoc]
      rfl

end IderServer
end IntelAmt
