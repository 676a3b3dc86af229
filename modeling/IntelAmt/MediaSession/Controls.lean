import IntelAmt.Errors
import IntelAmt.Foundation.Json.Doubles
import IntelAmt.Foundation.Script
import IntelAmt.MediaSession.Daemon
import IntelAmt.MediaSession.StateFile

/-!
# The controls of a media session

What a module does to a session from outside the daemon: it reads and removes
the state file, it looks whether a process is there and asks it to stop, it
waits, and it forks the daemon.  The functions are scripts over the operations
of the operating system.
-/

namespace IntelAmt
namespace MediaSession

open Foundation Ider

/-- The exceptions that are not of the collection. -/
inductive PyException where
  | type
  | value
  | attribute
  | overflow
  | unicodeDecode
  | recursion
  | os
deriving DecidableEq, Repr

/-- A file of a session in a runtime directory. -/
inductive SessionFile where
  | state (runtimeDir sessionId : String)
  | log (runtimeDir sessionId : String)
deriving DecidableEq, Repr

inductive FileError where
  | notFound
  | os
deriving DecidableEq, Repr

inductive CreateResult where
  | created
  | exists
  | failed
deriving DecidableEq, Repr

inductive Signal where
  | probe
  | sigterm
deriving DecidableEq, Repr

inductive KillResult where
  | delivered
  | noSuchProcess
  | notPermitted
deriving DecidableEq, Repr

/-- What the forking process learns: that there is no `fork`, that a call of
the operating system has failed, that the first child has reported nothing, or
the pid of the daemon. -/
inductive ForkResult where
  | unsupported
  | failed
  | silent
  | started (pid : Nat)
deriving DecidableEq, Repr

/-- The operations of the operating system. -/
inductive SystemOp where
  | readFile (file : SessionFile)
  | unlink (file : SessionFile)
  | createExclusive (file : SessionFile) (record : StateRecord)
  | kill (pid : Int) (signal : Signal)
  | files
  | fork (config : SessionConfig)
  | monotonic
  | sleep (seconds : Rat)
  | now
  | uuid
  | warn (message : Message)

@[reducible] def SystemAnswer : SystemOp -> Type
  | SystemOp.readFile _ => Except FileError Bytes
  | SystemOp.unlink _ => Except FileError Unit
  | SystemOp.createExclusive _ _ => CreateResult
  | SystemOp.kill _ _ => KillResult
  | SystemOp.files => Filesystem
  | SystemOp.fork _ => ForkResult
  | SystemOp.monotonic => Rat
  | SystemOp.sleep _ => Unit
  | SystemOp.now => String
  | SystemOp.uuid => String
  | SystemOp.warn _ => Unit

/-- A session record as it was read. -/
abbrev Members := List (List Nat × Json)

/-- `dict.get`. -/
def get (members : Members) (key : String) : Json :=
  (members.lookup (jsonKey key)).getD Json.null

/-- `(state or {}).get`. -/
def getOf (state : Option Members) (key : String) : Json :=
  get (state.getD []) key

structure StatusFields where
  sessionState : Json
  pid : Json
  bytesRead : Int
  bytesWritten : Int
  devices : Json
  error : Json
  tlsPeerFingerprint : Json

/-- The result of a module that fails. -/
structure FailResult where
  msg : Message
  errorClass : Json
  endpoint : Option String := none
  operation : Option String := none
  indeterminate : Bool := false
  sessionId : Option String := none
  fields : Option StatusFields := none

/-- How a script of a module ends early: with a failure of the collection,
with `fail_json`, which no handler catches, with another exception, or not
yet, because the clock readings that it was given are used up. -/
inductive Raised where
  | amt (error : AmtError)
  | failJson (result : FailResult)
  | exception (e : PyException)
  | waiting

abbrev MediaScript (alpha : Type) : Type :=
  Script SystemOp SystemAnswer Raised alpha

def raiseAmt {alpha : Type} (error : AmtError) : MediaScript alpha :=
  Script.raised (Raised.amt error)

def raiseException {alpha : Type} (e : PyException) : MediaScript alpha :=
  Script.raised (Raised.exception e)

def ofResult {alpha : Type} : Except PyException alpha -> MediaScript alpha
  | Except.ok a => Script.returned a
  | Except.error e => raiseException e

/-!
## State file and process
-/

def parseRead (interpreter : Interpreter) :
    Except FileError Bytes -> MediaScript (Option Members)
  | Except.error FileError.notFound => pure none
  | Except.error FileError.os => raiseException PyException.os
  | Except.ok raw =>
      match parseState interpreter raw with
      | Except.error ReadError.unicodeDecode =>
          raiseException PyException.unicodeDecode
      | Except.error ReadError.recursion => raiseException PyException.recursion
      | Except.ok parsed => pure parsed

def readState (interpreter : Interpreter) (runtimeDir sessionId : String) :
    MediaScript (Option Members) := do
  let raw ← Script.ask
    (SystemOp.readFile (SessionFile.state runtimeDir sessionId))
  parseRead interpreter raw

theorem readState_eq (interpreter : Interpreter)
    (runtimeDir sessionId : String) :
    readState interpreter runtimeDir sessionId =
      Script.call (SystemOp.readFile (SessionFile.state runtimeDir sessionId))
        (parseRead interpreter) := rfl

theorem parseRead_stateBytes {record : StateRecord} (h : record.Dumped)
    (interpreter : Interpreter) :
    parseRead interpreter (Except.ok (stateBytes record)) =
      Script.returned (some (recordMembers record)) := by
  rw [parseRead, parseState_stateBytes h]
  rfl

/-- `contextlib.suppress(FileNotFoundError)` around `unlink`. -/
def suppressNotFound : Except FileError Unit -> MediaScript Unit
  | Except.error FileError.os => raiseException PyException.os
  | Except.error FileError.notFound => pure ()
  | Except.ok _ => pure ()

def unlinkIfThere (file : SessionFile) : MediaScript Unit := do
  let result ← Script.ask (SystemOp.unlink file)
  suppressNotFound result

def removeState (runtimeDir sessionId : String) : MediaScript Unit := do
  unlinkIfThere (SessionFile.state runtimeDir sessionId)
  unlinkIfThere (SessionFile.log runtimeDir sessionId)

/-- `os.kill`, which takes a pid of the width of `pid_t`. -/
def osKill (pid : Int) (signal : Signal) : MediaScript KillResult :=
  if pid < 2147483648 then Script.ask (SystemOp.kill pid signal)
  else raiseException PyException.overflow

/-- `is_pid_alive` of a pid that is a number. -/
def isNumberAlive (pid : Int) : MediaScript Bool := do
  if pid ≤ 0 then pure false
  else
    let result ← osKill pid Signal.probe
    match result with
    | KillResult.noSuchProcess => pure false
    | KillResult.notPermitted => pure true
    | KillResult.delivered => pure true

def isPidAlive : Json -> MediaScript Bool
  | Json.null => pure false
  | Json.int pid => isNumberAlive pid
  -- a `bool` is a number
  | Json.bool value => isNumberAlive (if value then 1 else 0)
  -- a float is compared with 0 before `os.kill` refuses it
  | Json.float literal =>
      if (Json.floatValue literal).atMostZero then pure false
      else raiseException PyException.type
  | _ => raiseException PyException.type

/-- `request_stop` of the pid that `is_pid_alive` has found alive. -/
def requestStop : Json -> MediaScript Unit
  | Json.int pid => stopNumber pid
  | Json.bool value => stopNumber (if value then 1 else 0)
  | Json.null => pure ()
  | Json.float literal =>
      if (Json.floatValue literal).atMostZero then pure ()
      else raiseException PyException.type
  | _ => raiseException PyException.type
where
  stopNumber (pid : Int) : MediaScript Unit := do
    if pid ≤ 0 then pure ()
    else
      let result ← osKill pid Signal.sigterm
      match result with
      | KillResult.noSuchProcess => pure ()
      | KillResult.notPermitted => raiseException PyException.os
      | KillResult.delivered => pure ()

/-!
## Counters
-/

/-- `int`. -/
def intOf : Json -> Except PyException Int
  | Json.int value => Except.ok value
  | Json.bool value => Except.ok (if value then 1 else 0)
  | Json.float literal =>
      match Json.floatValue literal with
      | Json.FloatValue.nan => Except.error PyException.value
      | Json.FloatValue.infinite _ => Except.error PyException.overflow
      | Json.FloatValue.finite negative magnitude =>
          Except.ok (if negative then -magnitude.floor else magnitude.floor)
  | Json.str points =>
      match Json.textInt points with
      | none => Except.error PyException.value
      | some value => Except.ok value
  | _ => Except.error PyException.type

/-- `float` of an integer. -/
def floatOf (n : Int) : Except PyException Rat :=
  match Json.roundDouble n.natAbs with
  | none => Except.error PyException.overflow
  | some magnitude => Except.ok (if n < 0 then -magnitude else magnitude)

/-- The integers that round to a double. -/
def FitsDouble (n : Int) : Prop := n.natAbs < 2 ^ 1024 - 2 ^ 970

theorem floatOf_cases (n : Int) :
    FitsDouble n ∧ (exists value, floatOf n = Except.ok value) ∨
      ¬ FitsDouble n ∧ floatOf n = Except.error PyException.overflow := by
  have hfits := @Json.roundDouble_natCast_isSome n.natAbs
  unfold floatOf FitsDouble
  cases hround : Json.roundDouble n.natAbs with
  | none =>
      rw [hround] at hfits
      exact Or.inr ⟨fun h => Bool.false_ne_true (hfits.mpr h), rfl⟩
  | some magnitude =>
      rw [hround] at hfits
      exact Or.inl ⟨hfits.mp rfl, _, rfl⟩

theorem fitsDouble_iff {n : Int} :
    FitsDouble n ↔ exists value, floatOf n = Except.ok value := by
  rcases floatOf_cases n with ⟨hfits, hfloat⟩ | ⟨hfits, hfloat⟩
  · exact iff_of_true hfits hfloat
  · refine iff_of_false hfits ?_
    rintro ⟨value, hvalue⟩
    rw [hfloat] at hvalue
    cases hvalue

theorem floatOf_exact {n : Int} (h : n.natAbs < 2 ^ 53) :
    floatOf n = Except.ok (n : Rat) := by
  rw [floatOf, Json.roundDouble_natCast h]
  by_cases hneg : n < 0
  · have hcast : -((n.natAbs : Rat)) = n := by
      rw [← Int.cast_natCast, ← Int.cast_neg, Int.ofNat_natAbs_of_nonpos hneg.le,
        neg_neg]
    simp only [if_pos hneg, hcast]
  · have hcast : (n.natAbs : Rat) = n := by
      rw [← Int.cast_natCast, Int.natAbs_of_nonneg (not_lt.mp hneg)]
    simp only [if_neg hneg, hcast]

/-- `int(device.get(key, 0))`. -/
def deviceCounter (key : String) : Json -> Except PyException Int
  | Json.obj device =>
      match device.lookup (jsonKey key) with
      | none => Except.ok 0
      | some value => intOf value
  | _ => Except.error PyException.attribute

def sumCounters (key : String) : List Json -> Except PyException Int
  | [] => Except.ok 0
  | device :: devices => do
      let counter ← deviceCounter key device
      let rest ← sumCounters key devices
      pure (counter + rest)

def aggregateBytes (state : Option Members) :
    Except PyException (Int × Int) :=
  match (getOf state "devices").orElse (Json.obj []) with
  | Json.obj devices => do
      let totalRead ← sumCounters "bytes_read" (devices.map Prod.snd)
      let totalWritten ← sumCounters "bytes_written" (devices.map Prod.snd)
      pure (totalRead, totalWritten)
  | _ => Except.error PyException.attribute

/-!
## Waiting

The loops run over a number of looks; the clock decides how many they take.
-/

def statePollInterval : Rat := 1 / 5

def pollState (interpreter : Interpreter) (runtimeDir sessionId : String)
    (settled : Members -> Bool) (deadline : Rat) :
    Nat -> MediaScript (Option Members)
  | 0 => Script.raised Raised.waiting
  | looks + 1 => do
      let observed ← readState interpreter runtimeDir sessionId
      if observed.any settled then pure observed
      else
        let now ← Script.ask SystemOp.monotonic
        if deadline ≤ now then pure observed
        else
          Script.ask (SystemOp.sleep statePollInterval)
          pollState interpreter runtimeDir sessionId settled deadline looks

def waitForState (interpreter : Interpreter) (runtimeDir sessionId : String)
    (settled : Members -> Bool) (timeout : Rat) (looks : Nat) :
    MediaScript (Option Members) := do
  let now ← Script.ask SystemOp.monotonic
  pollState interpreter runtimeDir sessionId settled (now + timeout) looks

def pollExit (pid : Json) (deadline : Rat) : Nat -> MediaScript Bool
  | 0 => Script.raised Raised.waiting
  | looks + 1 => do
      let alive ← isPidAlive pid
      if alive then
        let now ← Script.ask SystemOp.monotonic
        if deadline ≤ now then pure false
        else
          Script.ask (SystemOp.sleep statePollInterval)
          pollExit pid deadline looks
      else pure true

def waitForExit (pid : Json) (timeout : Rat) (looks : Nat) :
    MediaScript Bool := do
  let now ← Script.ask SystemOp.monotonic
  pollExit pid (now + timeout) looks

/-!
## Media and spawning
-/

def openErrorPart : OpenError -> String
  | OpenError.value message => message
  | OpenError.os => "OSError"

def validateMediaSpecs (allowedDirectory : Option String) :
    List MediaSpec -> MediaScript Unit
  | [] => pure ()
  | spec :: specs => do
      let fs ← Script.ask SystemOp.files
      match MediaImage.openImage fs spec.path spec.deviceCode spec.writable
          allowedDirectory with
      | Except.error error =>
          raiseAmt
            { errorClass := ErrorClass.protocol
              message :=
                [MessagePart.text "invalid media configuration for ",
                  MessagePart.quoted (jsonText spec.path),
                  MessagePart.text (": " ++ openErrorPart error)]
              operation := some "amt_media.validate_media" }
      | Except.ok _ => validateMediaSpecs allowedDirectory specs

def unsupportedForkMessage : String :=
  "amt_media's background-session mechanism requires a POSIX controller with " ++
  "os.fork() (Linux/macOS). It is not available when the Ansible controller " ++
  "itself runs on Windows."

def silentForkMessage : String :=
  "amt_media background daemon did not report a pid; it likely failed during " ++
  "os.setsid()/fork() before it could start the IDE-R session -- check the " ++
  "session log"

/-- `spawn_session`.  The daemon runs from the fork on, so what follows it
happens beside the daemon. -/
def spawnSession (config : SessionConfig) : MediaScript Nat := do
  let forked ← Script.ask (SystemOp.fork config)
  match forked with
  | ForkResult.unsupported =>
      raiseAmt
        { errorClass := ErrorClass.unsupportedCapability
          message := unsupportedForkMessage
          operation := some "amt_media.spawn_session" }
  | ForkResult.failed => raiseException PyException.os
  | ForkResult.silent =>
      raiseAmt
        { errorClass := ErrorClass.protocol
          message := silentForkMessage
          operation := some "amt_media.spawn_session" }
  | ForkResult.started pid =>
      let now ← Script.ask SystemOp.now
      let result ← Script.ask
        (SystemOp.createExclusive
          (SessionFile.state config.runtimeDir config.sessionId)
          (initialState config.sessionId
            (config.host ++ ":" ++ toString config.port) pid now))
      match result with
      | CreateResult.failed => raiseException PyException.os
      | _ => pure pid

end MediaSession
end IntelAmt
