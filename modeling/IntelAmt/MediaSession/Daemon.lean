import IntelAmt.Ider.Runs
import IntelAmt.MediaSession.Record

/-!
# The media daemon

The whole life of the daemon, from its first record to its last: open the
media, connect, serve until it is stopped.  What the process cannot decide
itself is what it finds: the files, the endpoint, the clocks and the signals.
The main loop runs over the rounds that the endpoint and the clocks offer; a
run whose rounds are used up is still under way.
-/

namespace IntelAmt
namespace MediaSession

open Foundation Ider

/-- A media slot as it was configured; the device code is not checked yet. -/
structure MediaSpec where
  path : String
  deviceCode : Nat
  writable : Bool
deriving DecidableEq, Repr

structure SessionConfig where
  sessionId : String
  host : String
  port : Int
  useTls : Bool
  tlsPinSha256 : Option String
  connectTimeout : Rat
  startMode : StartMode
  allowedDirectory : Option String
  runtimeDir : String
  devices : List MediaSpec
deriving DecidableEq, Repr

/-- What a `try` block of the daemon catches: a classified failure with its
text, or any other exception. -/
inductive Failure where
  | amt (errorClass : ErrorClass) (text : String)
  | other (text : String)
deriving DecidableEq, Repr

inductive Received where
  | chunk (data : Bytes)
  | timeout
  | failed (failure : Failure)
deriving DecidableEq, Repr

/-- What one round of the main loop finds: whether SIGTERM has come before its
test or before what follows the loop, two readings of the monotonic clock,
what the endpoint has sent, and whether sending fails while it is fed. -/
structure Round where
  signalled : Bool
  signalledLater : Bool
  armedAt : Rat
  checkedAt : Rat
  received : Received
  sendFails : Option Failure

/-- What the daemon finds outside its main loop. -/
structure Environment where
  fs : Filesystem
  pid : Nat
  /-- the readings of the wall clock, in order -/
  now : Nat -> String
  redact : String -> String
  /-- the texts of the exceptions of the operating system and of `struct` -/
  osText : String
  structText : String
  connect : Except Failure Bytes
  peerCertificate : Except Failure (Option String)
  startFails : Option Failure
  leftoverFails : Option Failure
  recvTimeoutFails : Option Failure

/-- A written record, with the messages that the engine had processed by
then. -/
structure Persisted where
  record : StateRecord
  heard : List (Delivery DeviceCode)

structure Daemon where
  record : StateRecord
  readings : Nat
  images : Dict DeviceCode MediaImage := Dict.empty
  engine : Option (IderEngine DeviceCode) := none
  heard : List (Delivery DeviceCode) := []
  stopFlag : Bool := false
  toggleDeadline : Option Rat := none
  log : List Persisted := []

abbrev DaemonM (alpha : Type) : Type := Exec Failure Daemon alpha

section Actions

variable (env : Environment)

def persist : DaemonM Unit :=
  Exec.update fun d =>
    let record := { d.record with updatedAt := env.now d.readings }
    { d with
      record := record
      readings := d.readings + 1
      log := d.log ++ [{ record := record, heard := d.heard }] }

def setState (state : SessionState) : DaemonM Unit :=
  Exec.update fun d => { d with record := { d.record with state := state } }

def fail (message : String) (errorClass : ErrorClass) : DaemonM Unit := do
  Exec.update fun d =>
    { d with
      record :=
        { d.record with
          state := SessionState.error
          error := some (env.redact message)
          errorClass := some errorClass } }
  persist env

/-- `str` of an exception of the engine, and its class. -/
def engineFailure : PyError -> Failure
  | PyError.protocol e => Failure.amt ErrorClass.protocol (env.redact e.message)
  | PyError.struct => Failure.other env.structText
  | PyError.index => Failure.other "index out of range"
  | PyError.outOfFuel => Failure.other ""

def openFailure : OpenError -> Failure
  | OpenError.value message => Failure.other message
  | OpenError.os => Failure.other env.osText

def ofExcept {alpha : Type} : Except Failure alpha -> DaemonM alpha
  | Except.ok a => pure a
  | Except.error failure => Exec.raise failure

def ofOption : Option Failure -> DaemonM Unit
  | none => pure ()
  | some failure => Exec.raise failure

/-- The engine, once there is one. -/
def theEngine : DaemonM (IderEngine DeviceCode) := do
  let engine ← Exec.reads fun d => d.engine
  match engine with
  | none => Exec.raise (Failure.other "")
  | some e => pure e

/-- A call of the engine.  An exception out of `send` leaves the daemon no use
for the engine any more, so it stands for the whole call. -/
def callEngine (sendFails : Option Failure) (call : Call DeviceCode) :
    DaemonM Unit := do
  let e ← theEngine
  ofOption sendFails
  Exec.update fun d =>
    { d with
      engine := some ((runCall call).run e).2
      heard := d.heard ++ callDeliveries call e }
  match ((runCall call).run e).1 with
  | Except.ok _ => pure ()
  | Except.error error => Exec.raise (engineFailure env error)

/-!
## Media and connection
-/

def slotOf (deviceCode : Nat) : DeviceCode :=
  if deviceCode = DeviceCode.cdrom.code.toNat then DeviceCode.cdrom
  else DeviceCode.floppy

def openMedia (config : SessionConfig) : List MediaSpec -> DaemonM Unit
  | [] => pure ()
  | spec :: specs => do
      match MediaImage.openImage env.fs spec.path spec.deviceCode spec.writable
          config.allowedDirectory with
      | Except.error error => Exec.raise (openFailure env error)
      | Except.ok image =>
          let slot := slotOf spec.deviceCode
          Exec.update fun d =>
            { d with
              images := d.images.assign slot image
              record :=
                { d.record with
                  devices := d.record.devices.assign slot
                    (deviceState image) } }
          openMedia config specs

/-- The media as the engine finds it; a slot without media is never read. -/
def slotImages (images : Dict DeviceCode MediaImage) (slot : DeviceCode) :
    MediaImage :=
  (images.lookup slot).getD (MediaImage.blank [] slot 0 false fun _ => rfl)

def attachDevices : List DeviceCode -> DaemonM Unit
  | [] => pure ()
  | slot :: slots => do
      callEngine env none (Call.attach slot)
      attachDevices slots

def connectSession (config : SessionConfig) : DaemonM Unit := do
  let leftover ← ofExcept env.connect
  let fingerprint ← ofExcept env.peerCertificate
  Exec.update fun d =>
    { d with record := { d.record with tlsPeerFingerprint := fingerprint } }
  Exec.update fun d =>
    { d with
      engine :=
        some (newEngine config.startMode 30000 0 20000 (slotImages d.images)) }
  let slots ← Exec.reads fun d => d.images.entries.map Prod.fst
  attachDevices env slots
  callEngine env env.startFails Call.start
  if leftover ≠ [] then
    callEngine env env.leftoverFails (Call.feed leftover)
  ofOption env.recvTimeoutFails

/-!
## Serving
-/

def featureToggleTimeout : Rat := 5

def refusedMessage : String :=
  "IDE-R session opened but the endpoint refused the IDE-R feature toggle " ++
  "(STATUS_DATA REGS_TOGGLE reported failure), so no media is being served. " ++
  "Check that IDE-R/redirection is enabled for this endpoint and that no " ++
  "other redirection session holds the device."

def silentMessage : String :=
  "IDE-R session opened but the endpoint never reported the outcome of the " ++
  "IDE-R feature toggle within 5.0s (no STATUS_DATA REGS_TOGGLE frame " ++
  "arrived), so whether media is being served is unknown. The session was " ++
  "not reported as attached."

def tornDownMessage : String :=
  "IDE-R session was torn down by the peer or a protocol error, not by a " ++
  "detach request"

def receiveSignal (signalled : Bool) : DaemonM Unit :=
  Exec.update fun d => { d with stopFlag := d.stopFlag || signalled }

/-- The records of the devices, from their images. -/
def refreshDevices : DaemonM Unit := do
  let e ← theEngine
  Exec.update fun d =>
    { d with
      record :=
        { d.record with
          devices := d.images.entries.foldl
            (fun devices entry =>
              devices.assign entry.1 (deviceState (e.state.images entry.1)))
            d.record.devices } }

/-- How a pass of the main loop goes on: to the next pass, behind the loop, or
out of the function. -/
inductive Progress where
  | next
  | leave
  | returned
deriving DecidableEq, Repr

/-- The attach gate.  It tells whether the verdict on the feature toggle of an
open session is overdue. -/
def attachGate (round : Round) (engine : HandlerState DeviceCode) :
    DaemonM Bool := do
  if engine.sessionOpen then
    Exec.update fun d =>
      { d with
        toggleDeadline :=
          some (d.toggleDeadline.getD
            (round.armedAt + featureToggleTimeout)) }
    if engine.featureToggleOk = some true then
      setState SessionState.attached
      pure false
    else
      let deadline ← Exec.reads fun d => d.toggleDeadline
      pure (decide (deadline.getD 0 ≤ round.checkedAt))
  else pure false

def receive (round : Round) : DaemonM Progress := do
  match round.received with
  | Received.timeout => pure Progress.next
  | Received.failed failure => Exec.raise failure
  | Received.chunk [] =>
      Exec.update fun d =>
        { d with
          record :=
            { d.record with
              state := SessionState.detached
              error := some "connection closed by peer" } }
      persist env
      pure Progress.returned
  | Received.chunk (byte :: data) =>
      callEngine env round.sendFails (Call.feed (byte :: data))
      pure Progress.next

/-- One pass of the main loop. -/
def servePass (round : Round) : DaemonM Progress := do
  let e ← theEngine
  receiveSignal round.signalled
  let stopFlag ← Exec.reads fun d => d.stopFlag
  if e.state.stopped || stopFlag then
    receiveSignal round.signalledLater
    pure Progress.leave
  else if e.state.featureToggleOk = some false then
    fail env refusedMessage ErrorClass.unsupportedCapability
    pure Progress.returned
  else
    let overdue ← attachGate round e.state
    if overdue then
      fail env silentMessage ErrorClass.timeout
      pure Progress.returned
    else
      refreshDevices
      persist env
      receive env round

def serve : List Round -> DaemonM Progress
  | [] => pure Progress.next
  | round :: rounds => do
      let progress ← servePass env round
      match progress with
      | Progress.next => serve rounds
      | Progress.leave => pure Progress.leave
      | Progress.returned => pure Progress.returned

/-- What follows the main loop. -/
def finish : DaemonM Unit := do
  refreshDevices
  Exec.update fun d =>
    if d.stopFlag then
      { d with
        record :=
          { d.record with state := SessionState.detached, error := none } }
    else
      { d with
        record :=
          { d.record with
            state := SessionState.error
            error := some tornDownMessage
            errorClass := some ErrorClass.protocol } }
  persist env

/-!
## The daemon
-/

/-- The `try` block; it tells whether the function has returned. -/
def serveSession (config : SessionConfig) (rounds : List Round) :
    DaemonM Bool := do
  openMedia env config config.devices
  setState SessionState.connecting
  persist env
  connectSession env config
  let progress ← serve env rounds
  match progress with
  | Progress.next => pure false
  | Progress.leave =>
      finish env
      pure true
  | Progress.returned => pure true

/-- The two `except` clauses. -/
def report : Failure -> DaemonM Bool
  | Failure.amt errorClass text => do
      fail env text errorClass
      pure true
  | Failure.other text => do
      fail env ("unexpected error: " ++ text) ErrorClass.protocol
      pure true

def runDaemon (config : SessionConfig) (rounds : List Round) :
    DaemonM Bool := do
  persist env
  Exec.handle (serveSession env config rounds) (report env)

/-- The daemon before its first write. -/
def newDaemon (config : SessionConfig) : Daemon where
  record := initialState config.sessionId
    (config.host ++ ":" ++ toString config.port) env.pid (env.now 0)
  readings := 1

end Actions

end MediaSession
end IntelAmt
