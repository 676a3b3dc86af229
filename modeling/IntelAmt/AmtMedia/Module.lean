import IntelAmt.MediaSession.Controls
import IntelAmt.Tls

/-!
# The media module

`amt_media`: attach serves an ISO or a floppy image from a background session,
detach stops the session again.  The number `looks` bounds how often the two
look at the state file and at the daemon while they wait.
-/

namespace IntelAmt
namespace AmtMedia

open Foundation Ider MediaSession

inductive DesiredState where
  | attached
  | detached
deriving DecidableEq, Repr

/-- The options of the module, whether it runs in check mode, and the
interpreter that runs it. -/
structure Params where
  host : String
  port : Option Int := none
  useTls : Bool := true
  allowInsecureTransport : Bool := false
  caPath : Option String := none
  tlsFingerprint : Option String := none
  connectTimeout : Int := 10
  cdrom : Option String := none
  floppy : Option String := none
  floppyWritable : Bool := false
  startMode : StartMode := StartMode.onReboot
  state : DesiredState
  sessionId : Option String := none
  allowedDirectory : Option String := none
  runtimeDir : String
  attachTimeout : Int := 10
  detachTimeout : Int := 15
  checkMode : Bool := false
  interpreter : Interpreter := usualInterpreter

/-- An optional text that is there and not empty. -/
def given (option : Option String) : Option String :=
  option.filter fun text => text ≠ ""

structure Receipt where
  action : String
  endpoint : String
  changed : Bool
  previous : Option Members
  desired : Option DesiredState
  observed : Option Members
  tlsPeerFingerprint : Json := Json.null

structure ModuleResult where
  receipt : Receipt
  sessionId : String
  fields : StatusFields
  recoveredStaleSession : Option Bool := none
  exitedCleanly : Option Bool := none

def ModuleResult.changed (result : ModuleResult) : Bool :=
  result.receipt.changed

/-!
## Policy and configuration
-/

def redirectionPortTls : Int := 16995

def redirectionPortPlain : Int := 16994

def resolveRedirectionPort (port : Option Int) (useTls : Bool) : Int :=
  match port with
  | some port => port
  | none => if useTls then redirectionPortTls else redirectionPortPlain

def invalidState (operation message : String) : AmtError where
  errorClass := ErrorClass.invalidState
  message := message
  operation := some operation

def noMediaMessage : String :=
  "amt_media state=attached requires at least one of cdrom or floppy to be set"

def noFloppyMessage : String :=
  "floppy_writable=true requires floppy to be set; there is nothing to open " ++
  "writable"

def buildMediaSpecs (params : Params) : Except AmtError (List MediaSpec) :=
  let operation := "amt_media.build_media_specs"
  if (given params.cdrom).isNone && (given params.floppy).isNone then
    Except.error (invalidState operation noMediaMessage)
  else if params.floppyWritable && (given params.floppy).isNone then
    Except.error (invalidState operation noFloppyMessage)
  else
    let cdrom := (given params.cdrom).toList.map fun path =>
      { path := path
        deviceCode := DeviceCode.cdrom.code.toNat
        writable := false : MediaSpec }
    let floppy := (given params.floppy).toList.map fun path =>
      { path := path
        deviceCode := DeviceCode.floppy.code.toNat
        writable := params.floppyWritable : MediaSpec }
    Except.ok (cdrom ++ floppy)

def caPathMessage : String :=
  "ca_path is not supported by amt_media. The IDE-R redirection plane is a " ++
  "raw TLS socket with no CA-chain trust path; its only trust mode is exact " ++
  "SHA-256 leaf pinning. Set tls_fingerprint instead."

def noPinMessage : String :=
  "amt_media requires tls_fingerprint when use_tls is true. Without a pin " ++
  "the redirection session would be encrypted but unauthenticated, so an " ++
  "on-path attacker could terminate it and serve its own boot media. Supply " ++
  "the reviewed SHA-256 leaf fingerprint, or set use_tls=false with " ++
  "allow_insecure_transport=true for an endpoint that cannot do TLS at all."

/-- `host:port` as it was given, which shows a missing port as `None`. -/
def givenEndpoint (params : Params) : String :=
  params.host ++ ":" ++ (params.port.map toString).getD "None"

def enforceRedirectionTrustPolicy (params : Params) : Except AmtError Unit :=
  if (given params.caPath).isSome then
    Except.error
      { Tls.tlsValidation caPathMessage with
        endpoint := some (givenEndpoint params) }
  else if params.useTls && (given params.tlsFingerprint).isNone then
    Except.error
      { Tls.tlsValidation noPinMessage with
        endpoint := some (givenEndpoint params) }
  else Except.ok ()

/-- The pin of a session, normalized. -/
def sessionPin (params : Params) : Except AmtError (Option String) :=
  match given params.tlsFingerprint with
  | none => Except.ok none
  | some raw => (Tls.normalizeFingerprint raw).map some

def buildSessionConfig (params : Params) (sessionId : String) (port : Int)
    (specs : List MediaSpec) : Except Raised SessionConfig := do
  let fingerprint ← (sessionPin params).mapError Raised.amt
  let connectTimeout ←
    (floatOf params.connectTimeout).mapError Raised.exception
  pure
    { sessionId := sessionId
      host := params.host
      port := port
      useTls := params.useTls
      tlsPinSha256 := fingerprint
      connectTimeout := connectTimeout
      startMode := params.startMode
      allowedDirectory := params.allowedDirectory
      runtimeDir := params.runtimeDir
      devices := specs }

/-!
## Status
-/

def stateIs (state : Json) (name : String) : Bool :=
  match state with
  | Json.str points => points = jsonKey name
  | _ => false

/-- `state in TERMINAL_STATES`; the states are a set, so the value is
hashed. -/
def inTerminalStates : Json -> Except PyException Bool
  | Json.arr _ => Except.error PyException.type
  | Json.obj _ => Except.error PyException.type
  | state =>
      Except.ok
        (stateIs state SessionState.detached.name ||
          stateIs state SessionState.error.name)

def getOr (state : Option Members) (key : String) (default : Json) : Json :=
  ((state.getD []).lookup (jsonKey key)).getD default

def statusFields (state : Option Members) :
    Except PyException StatusFields := do
  let bytes ← aggregateBytes state
  pure
    { sessionState := getOr state "state" (jsonText "unknown")
      pid := getOf state "pid"
      bytesRead := bytes.1
      bytesWritten := bytes.2
      devices := getOr state "devices" (Json.obj [])
      error := getOf state "error"
      tlsPeerFingerprint := getOf state "tls_peer_fingerprint" }

def errorClassOf (state : Option Members) : Json :=
  (getOf state "error_class").orElse (jsonText ErrorClass.protocol.name)

/-- `fail_json(**err.to_result())`. -/
def resultOf (error : AmtError) : FailResult where
  msg := error.message
  errorClass := jsonText error.errorClass.name
  endpoint := error.endpoint
  operation := error.operation
  indeterminate := error.indeterminate

def failJson {alpha : Type} (result : FailResult) : MediaScript alpha :=
  Script.raised (Raised.failJson result)

def ofAmt {alpha : Type} : Except AmtError alpha -> MediaScript alpha
  | Except.ok a => Script.returned a
  | Except.error e => raiseAmt e

def ofRaised {alpha : Type} : Except Raised alpha -> MediaScript alpha
  | Except.ok a => Script.returned a
  | Except.error raised => Script.raised raised

/-!
## Attach
-/

/-- Whether a session that has not ended answers to its record. -/
def liveSession (existing : Members) : MediaScript Bool := do
  let alive ← isPidAlive (get existing "pid")
  if alive then
    let terminal ← ofResult (inTerminalStates (get existing "state"))
    pure (!terminal)
  else pure false

def attachedResult (endpoint sessionId : String) (existing : Members) :
    MediaScript ModuleResult := do
  let fields ← ofResult (statusFields (some existing))
  pure
    { receipt :=
        { action := "amt_media.attach"
          endpoint := endpoint
          changed := false
          previous := some existing
          desired := none
          observed := some existing
          tlsPeerFingerprint := fields.tlsPeerFingerprint }
      sessionId := sessionId
      fields := fields }

def settled (state : Members) : Bool :=
  let value := get state "state"
  stateIs value SessionState.attached.name ||
    stateIs value SessionState.error.name ||
    stateIs value SessionState.detached.name

def startingFields : StatusFields where
  sessionState := jsonText SessionState.starting.name
  pid := Json.null
  bytesRead := 0
  bytesWritten := 0
  devices := Json.obj []
  error := Json.null
  tlsPeerFingerprint := Json.null

def reportedMessage (reported : Json) : Message :=
  [MessagePart.text "amt_media attach failed: ", MessagePart.shown reported]

def exitedMessage (state : Json) : Message :=
  [MessagePart.text
      ("amt_media attach failed: the session process exited without " ++
        "reporting 'attached' (last observed state "),
    MessagePart.quoted state,
    MessagePart.text
      ("). Check the AMT credentials and that the redirection port is " ++
        "reachable.")]

def terminalMessage (state reported : Json) : Message :=
  [MessagePart.text
      "amt_media attach failed: the session reached terminal state ",
    MessagePart.quoted state,
    MessagePart.text " without ever reporting 'attached'"] ++
  (if reported.truthy then
    [MessagePart.text ": ", MessagePart.shown reported]
  else [])

def unconfirmedMessage (attachTimeout : Int) (fields : StatusFields)
    (sessionId : String) : Message :=
  [MessagePart.text
      ("amt_media attach did not confirm within attach_timeout=" ++
        toString attachTimeout ++ "s: the session process (pid "),
    MessagePart.shown fields.pid,
    MessagePart.text ") is still running but its last reported state is ",
    MessagePart.quoted fields.sessionState,
    MessagePart.text
      (", not 'attached', so it is not established that media is being " ++
        "served. The session was not detached and is still running as " ++
        "session_id "),
    MessagePart.quoted (jsonText sessionId),
    MessagePart.text
      (". Re-probe it with another state=attached call for that same " ++
        "session_id rather than retrying the attach -- IDE-R is " ++
        "single-session, so a second attach would collide with this one. " ++
        "Detach that session_id if you do not intend to wait, and raise " ++
        "attach_timeout if slow attaches are normal for this endpoint.")]

/-- The daemon is gone and was never seen attached. -/
def failExited (params : Params) (sessionId : String)
    (observed : Option Members) (fields : StatusFields) :
    MediaScript Unit := do
  -- the daemon may have written its error since the last look
  let last ← readState params.interpreter params.runtimeDir sessionId
  let final := (last.filter fun members => members ≠ []).or observed
  let finalFields ← ofResult (statusFields final)
  let reported := finalFields.error.orElse fields.error
  failJson
    { msg :=
        if reported.truthy then reportedMessage reported
        else exitedMessage finalFields.sessionState
      errorClass := errorClassOf final
      sessionId := some sessionId
      fields := some finalFields }

/-- What the module makes of the state that the wait has ended with. -/
def verdict (params : Params) (endpoint sessionId : String)
    (observed : Option Members) (fields : StatusFields) :
    MediaScript Unit := do
  if stateIs fields.sessionState SessionState.error.name then
    failJson
      { msg := reportedMessage fields.error
        errorClass := errorClassOf observed
        sessionId := some sessionId
        fields := some fields }
  else if stateIs fields.sessionState SessionState.attached.name then pure ()
  else
    let alive ← isPidAlive (getOf observed "pid")
    if alive then
      let terminal ← ofResult (inTerminalStates fields.sessionState)
      if terminal then
        failJson
          { msg := terminalMessage fields.sessionState fields.error
            errorClass := errorClassOf observed
            sessionId := some sessionId
            fields := some fields }
      else
        failJson
          { msg := unconfirmedMessage params.attachTimeout fields sessionId
            errorClass := jsonText ErrorClass.timeout.name
            endpoint := some endpoint
            indeterminate := true
            sessionId := some sessionId
            fields := some fields }
    else failExited params sessionId observed fields

/-- From a validated configuration to the verdict. -/
def startSession (looks : Nat) (params : Params) (endpoint sessionId : String)
    (port : Int) (specs : List MediaSpec) (existing : Option Members)
    (recoveredStale : Bool) : MediaScript ModuleResult := do
  let config ← ofRaised (buildSessionConfig params sessionId port specs)
  let _ ← spawnSession config
  let timeout ← ofResult (floatOf params.attachTimeout)
  let observed ← waitForState params.interpreter params.runtimeDir sessionId
    settled timeout looks
  let fields ← ofResult (statusFields observed)
  verdict params endpoint sessionId observed fields
  pure
    { receipt :=
        { action := "amt_media.attach"
          endpoint := endpoint
          changed := true
          previous := existing
          desired := some DesiredState.attached
          observed := observed
          tlsPeerFingerprint := fields.tlsPeerFingerprint }
      sessionId := sessionId
      fields := fields
      recoveredStaleSession := some recoveredStale }

/-- An attach whose session has no record, or no longer has one. -/
def attachFresh (looks : Nat) (params : Params) (endpoint sessionId : String)
    (port : Int) (existing : Option Members) : MediaScript ModuleResult := do
  let specs ← ofAmt (buildMediaSpecs params)
  validateMediaSpecs params.allowedDirectory specs
  if params.checkMode then
    pure
      { receipt :=
          { action := "amt_media.attach"
            endpoint := endpoint
            changed := true
            previous := existing
            desired := some DesiredState.attached
            observed := none }
        sessionId := sessionId
        fields := startingFields
        recoveredStaleSession := some existing.isSome }
  else
    startSession looks params endpoint sessionId port specs existing
      existing.isSome

def attachSession (params : Params) : MediaScript String :=
  match given params.sessionId with
  | some sessionId => pure sessionId
  | none => Script.ask SystemOp.uuid

/-- `_attach`. -/
def attach (looks : Nat) (params : Params) (endpoint : String) (port : Int) :
    MediaScript ModuleResult := do
  let sessionId ← attachSession params
  let existing ← readState params.interpreter params.runtimeDir sessionId
  match existing with
  | none => attachFresh looks params endpoint sessionId port none
  | some record =>
      let live ← liveSession record
      -- a second daemon would find the one session of the firmware taken
      if live then attachedResult endpoint sessionId record
      else
        removeState params.runtimeDir sessionId
        attachFresh looks params endpoint sessionId port (some record)

/-!
## Detach
-/

def detachedReceipt (endpoint : String) (changed : Bool)
    (previous observed : Option Members) : Receipt where
  action := "amt_media.detach"
  endpoint := endpoint
  changed := changed
  previous := previous
  desired := some DesiredState.detached
  observed := observed

def unexitedMessage (sessionId : String) (pid : Json) (detachTimeout : Int) :
    Message :=
  [MessagePart.text ("amt_media session " ++ sessionId ++ " (pid "),
    MessagePart.shown pid,
    MessagePart.text
      (") did not exit within detach_timeout=" ++ toString detachTimeout ++
        "s after being signalled; it may still be shutting down.")]

def warnUnlessExited (exited : Bool) (message : Message) : MediaScript Unit :=
  if exited then pure () else Script.ask (SystemOp.warn message)

/-- Stop a live session. -/
def stopSession (looks : Nat) (params : Params) (endpoint sessionId : String)
    (existing : Members) : MediaScript ModuleResult := do
  let pid := get existing "pid"
  requestStop pid
  let timeout ← ofResult (floatOf params.detachTimeout)
  let exited ← waitForExit pid timeout looks
  let last ← readState params.interpreter params.runtimeDir sessionId
  let final := (last.filter fun members => members ≠ []).or (some existing)
  removeState params.runtimeDir sessionId
  warnUnlessExited exited (unexitedMessage sessionId pid params.detachTimeout)
  let fields ← ofResult (statusFields final)
  pure
    { receipt :=
        { detachedReceipt endpoint true (some existing) final with
          tlsPeerFingerprint := fields.tlsPeerFingerprint }
      sessionId := sessionId
      fields := fields
      exitedCleanly := some exited }

/-- `_detach`. -/
def detach (looks : Nat) (params : Params) (endpoint sessionId : String) :
    MediaScript ModuleResult := do
  let existing ← readState params.interpreter params.runtimeDir sessionId
  match existing with
  | none =>
      let fields ← ofResult (statusFields none)
      pure
        { receipt := detachedReceipt endpoint false none none
          sessionId := sessionId
          fields := fields }
  | some record =>
      let live ← isPidAlive (get record "pid")
      if params.checkMode then
        let fields ← ofResult (statusFields (some record))
        pure
          { receipt :=
              detachedReceipt endpoint live (some record) (some record)
            sessionId := sessionId
            fields := fields }
      else if live then stopSession looks params endpoint sessionId record
      else
        removeState params.runtimeDir sessionId
        let fields ← ofResult (statusFields (some record))
        pure
          { receipt :=
              detachedReceipt endpoint false (some record) (some record)
            sessionId := sessionId
            fields := fields
            recoveredStaleSession := some true }

/-!
## The module
-/

/-- What the module does; the argument specification has made sure that a
detach names its session. -/
def operate (looks : Nat) (params : Params) : MediaScript ModuleResult := do
  let port := resolveRedirectionPort params.port params.useTls
  let endpoint := params.host ++ ":" ++ toString port
  match params.state with
  | DesiredState.attached =>
      ofAmt
        (Tls.enforceTransportPolicy params.useTls
          params.allowInsecureTransport)
      ofAmt (enforceRedirectionTrustPolicy params)
      attach looks params endpoint port
  | DesiredState.detached =>
      detach looks params endpoint (params.sessionId.getD "")

/-- `except AmtError`. -/
def reportAmt : Raised -> MediaScript ModuleResult
  | Raised.amt error => failJson (resultOf error)
  | other => Script.raised other

def main (looks : Nat) (params : Params) : MediaScript ModuleResult :=
  (operate looks params).handle reportAmt

end AmtMedia
end IntelAmt
