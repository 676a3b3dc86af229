import IntelAmt.AmtMedia.Module

/-!
# The install role

The tasks of `amt_baremetal_install`, file by file.  A task asks for its
operation and fails when the answer says so; facts and the state file belong
to the world that the tasks run in.
-/

namespace IntelAmt
namespace BaremetalInstall

open Foundation MediaSession

/-- The run state, as it is kept in the state file of a target. -/
structure RunState where
  mediaAttached : Bool
  sessionId : Option String
  bootArmed : Bool
  actionTokenIssuedAt : Option String
  resetIssued : Bool
  resetConfirmed : Bool
  detached : Bool
  lastFailure : Option String
deriving DecidableEq, Repr

def defaultState : RunState where
  mediaAttached := false
  sessionId := none
  bootArmed := false
  actionTokenIssuedAt := none
  resetIssued := false
  resetConfirmed := false
  detached := true
  lastFailure := none

/-- The variables of the role that its tasks look at. -/
structure Vars where
  /-- `ansible_play_hosts_all`, and the size of `ansible_play_batch` -/
  playHosts : List String
  playBatch : Nat
  host : String
  password : Option String
  useTls : Bool
  allowInsecureTransport : Bool
  tlsFingerprint : Option String
  confirmDestructive : Bool
  bootProvider : String
  isoPath : Option String
  answerImagePath : Option String
  answerImageWritable : Bool
  mediaStartMode : Ider.StartMode
  mediaPort : Option Int
  mediaAllowedDirectory : Option String
  mediaRuntimeDir : String
  mediaAttachTimeout : Int
  mediaDetachTimeout : Int
  waitForHandoff : Bool
  handoffHost : Option String
  handoffPort : Nat
  handoffTimeout : Nat
  stateFile : String
  forceResume : Bool
  /-- of the controller, which runs the modules -/
  interpreter : MediaSession.Interpreter := MediaSession.usualInterpreter

def supportedProviders : List String := ["ider_cdrom", "pxe"]

/-- `is truthy`. -/
def truthy (text : Option String) : Bool := (AmtMedia.given text).isSome

/-- What a failed task leaves in `ansible_failed_result`. -/
structure FailedResult where
  msg : String
  errorClass : Option String := none
  indeterminate : Bool := false
deriving DecidableEq, Repr

inductive TaskResult (alpha : Type) where
  | ok (value : alpha)
  | failed (result : FailedResult)

/-- What `amt_info` reports as far as the role reads it. -/
structure Probe where
  reachable : Bool
  bootOncePxe : Bool
  storageRedirection : Bool
  powerState : Option String
deriving DecidableEq, Repr

inductive PowerAction where
  | on
  | reset
deriving DecidableEq, Repr

def PowerAction.name : PowerAction -> String
  | on => "on"
  | reset => "reset"

/-- The operations of the tasks.  A `task` has no effect that another task of
the role looks at. -/
inductive RoleOp where
  | started (forceResume : Bool)
  | task (name : String)
  | stat
  | includeVars
  | runState
  | setRunState (name : String) (state : RunState)
  | saveState (state : RunState)
  | lookupPassword (characters : String)
  | now
  | amtInfo
  | amtRedirection
  | amtMedia (params : AmtMedia.Params)
  | amtBoot (device actionToken : String)
  | amtPower (action : PowerAction)
  | amtPowerQuery
  | waitFor

@[reducible] def RoleAnswer : RoleOp -> Type
  | RoleOp.started _ => Unit
  | RoleOp.task _ => TaskResult Unit
  | RoleOp.stat => TaskResult Bool
  | RoleOp.includeVars => TaskResult RunState
  | RoleOp.runState => Option RunState
  | RoleOp.setRunState _ _ => TaskResult Unit
  | RoleOp.saveState _ => TaskResult Unit
  | RoleOp.lookupPassword _ => String
  | RoleOp.now => String
  | RoleOp.amtInfo => TaskResult Probe
  | RoleOp.amtRedirection => TaskResult Unit
  | RoleOp.amtMedia _ => TaskResult AmtMedia.ModuleResult
  | RoleOp.amtBoot _ _ => TaskResult Unit
  | RoleOp.amtPower _ => TaskResult Unit
  | RoleOp.amtPowerQuery => TaskResult (Option String)
  | RoleOp.waitFor => TaskResult Unit

abbrev RoleScript (alpha : Type) : Type :=
  Script RoleOp RoleAnswer FailedResult alpha

def ofTask {alpha : Type} : TaskResult alpha -> RoleScript alpha
  | TaskResult.ok value => Script.returned value
  | TaskResult.failed result => Script.raised result

def task (name : String) : RoleScript Unit := do
  let result ← Script.ask (RoleOp.task name)
  ofTask result

def assertThat (name : String) (condition : Bool) (failMsg : String) :
    RoleScript Unit := do
  task name
  if condition then pure () else Script.raised { msg := failMsg }

def failWith (name : String) (msg : String) : RoleScript Unit := do
  task name
  Script.raised { msg := msg }

/-- A variable that is not defined fails the task that reads it. -/
def definedState : Option RunState -> RoleScript RunState
  | some state => Script.returned state
  | none =>
      Script.raised { msg := "'amt_baremetal_install_run_state' is undefined" }

def theRunState : RoleScript RunState := do
  let state ← Script.ask RoleOp.runState
  definedState state

def setRunState (name : String) (state : RunState) : RoleScript Unit := do
  let result ← Script.ask (RoleOp.setRunState name state)
  ofTask result

/-- `run_state | combine(..)`. -/
def combineRunState (name : String) (change : RunState -> RunState) :
    RoleScript Unit := do
  let state ← theRunState
  setRunState name (change state)

/-!
## `save_state.yml`, `validate.yml`, `state.yml`
-/

def saveState : RoleScript Unit := do
  let state ← theRunState
  let result ← Script.ask (RoleOp.saveState state)
  ofTask result

section Tasks

variable (vars : Vars)

def fanOutMessage : String :=
  "amt_baremetal_install refuses to run: this play targets " ++
    toString vars.playHosts.length ++ " hosts (" ++
    ", ".intercalate vars.playHosts ++ "); the current batch contains " ++
    toString vars.playBatch ++ ". Power actions and one-time boot arming are " ++
    "physically disruptive, and delegate_to: localhost does not stop Ansible " ++
    "from fanning a task out across every host in a play -- a ten-host play " ++
    "still issues ten resets, and `serial: 1` does not change that, it " ++
    "only spreads them out. Target exactly one host (e.g. " ++
    "`ansible-playbook ... -l <single-host>`)."

def unconfirmedMessage : String :=
  "Refusing to continue: amt_baremetal_install power-cycles and can reimage " ++
    vars.host ++ ". Re-run with -e " ++
    "amt_baremetal_install_confirm_destructive=true only after confirming " ++
    "this is the intended target."

def providerMessage : String :=
  "amt_baremetal_install_boot_provider=" ++ vars.bootProvider ++
    " is not one of ['ider_cdrom', 'pxe']. Native PXE and IDE-R boot are " ++
    "mutually exclusive at the firmware level (see amt_boot's " ++
    "DOCUMENTATION), so this role requires one explicit choice rather than " ++
    "guessing or silently combining them."

def connectionMessage : String :=
  "Missing or inconsistent connection settings. amt_baremetal_install_host " ++
    "and amt_baremetal_install_password are always required; " ++
    "amt_baremetal_install_tls_fingerprint is required when " ++
    "amt_baremetal_install_use_tls is true (the default), and " ++
    "amt_baremetal_install_allow_insecure_transport must be explicitly true " ++
    "when amt_baremetal_install_use_tls is false. See " ++
    "plugins/doc_fragments/connection.py."

def handoffMessage : String :=
  "amt_baremetal_install_wait_for_handoff is true (the default) but " ++
    "amt_baremetal_install_handoff_host is not set. This role waits for the " ++
    "freshly installed OS to answer on port " ++ toString vars.handoffPort ++
    ", and the OS does not necessarily answer on " ++ vars.host ++
    " -- that is the AMT management address, which may or may not be the " ++
    "address the OS itself comes up on. Set " ++
    "amt_baremetal_install_handoff_host explicitly to whatever the installed " ++
    "OS answers on (for a conventional inventory that is usually " ++
    "`{{ inventory_hostname }}`), or set " ++
    "amt_baremetal_install_wait_for_handoff=false to skip the hand-off wait " ++
    "entirely. It is not defaulted because a wrong guess is only discovered " ++
    "after the reset has already happened, having burnt " ++
    "amt_baremetal_install_handoff_timeout seconds (currently " ++
    toString vars.handoffTimeout ++ ") on a machine that may well have " ++
    "installed perfectly."

def noMediaMessage : String :=
  "amt_baremetal_install_boot_provider=ider_cdrom requires at least one of " ++
    "amt_baremetal_install_iso_path or " ++
    "amt_baremetal_install_answer_image_path -- amt_media itself refuses " ++
    "state=attached with neither cdrom nor floppy set."

def validate : RoleScript Unit := do
  assertThat ("Guard against inventory fan-out -- this role must run " ++
      "against exactly one host per play")
    (vars.playHosts.length == 1) (fanOutMessage vars)
  assertThat "Require the destructive-action confirmation variable"
    vars.confirmDestructive (unconfirmedMessage vars)
  assertThat "Require a boot provider this role actually implements"
    (supportedProviders.contains vars.bootProvider) (providerMessage vars)
  assertThat "Require connection settings that are actually consistent"
    (vars.host ≠ "" && truthy vars.password &&
      ((vars.useTls && truthy vars.tlsFingerprint) ||
        (!vars.useTls && vars.allowInsecureTransport)))
    connectionMessage
  if vars.waitForHandoff then
    assertThat ("Require an explicit hand-off endpoint when the hand-off " ++
        "wait is enabled")
      (truthy vars.handoffHost) (handoffMessage vars)
  if vars.bootProvider == "ider_cdrom" then
    assertThat "Require at least one media source for the ider_cdrom provider"
      (vars.isoPath.isSome || vars.answerImagePath.isSome) noMediaMessage

/-- Armed, and not known to have been reset since. -/
def RunState.uncertain (state : RunState) : Bool :=
  state.bootArmed && !state.resetConfirmed

def uncertainMessage (state : RunState) : String :=
  "A prior run for " ++ vars.host ++ " left state indicating boot_armed=" ++
    toString state.bootArmed ++ " and reset_issued=" ++
    toString state.resetIssued ++ " with reset_confirmed=" ++
    toString state.resetConfirmed ++ " (state file: " ++ vars.stateFile ++
    "). This role never silently re-arms one-time boot or re-issues a reset " ++
    "of uncertain outcome. Use the manual recovery path in " ++
    "tests/hardware/README.md (KVM console / MEBx) to confirm the machine's " ++
    "actual boot state, then re-run with -e " ++
    "amt_baremetal_install_force_resume=true to proceed -- a fresh " ++
    "action_token is always generated; the previous one is never reused. If " ++
    "the machine is already confirmed installed and only needs its media " ++
    "detached, include this role's tasks/detach_media.yml directly rather " ++
    "than the whole role."

/-- The state that a prior run has left, or the default one. -/
def priorState : RoleScript RunState := do
  task "Ensure the run-state directory exists"
  task "Compute this target's run-state file path"
  let stat ← Script.ask RoleOp.stat
  let found ← ofTask stat
  if found then
    let loaded ← Script.ask RoleOp.includeVars
    let prior ← ofTask loaded
    task "Default run state when no prior state file exists"
    pure prior
  else
    task "Default run state when no prior state file exists"
    pure defaultState

def refuseUncertain (state : RunState) : RoleScript Unit :=
  if state.uncertain then
    assertThat ("Refuse to silently resume past an uncertain boot/reset " ++
        "without operator acknowledgement")
      vars.forceResume (uncertainMessage vars state)
  else pure ()

def clearArmed (state : RunState) : RoleScript Unit :=
  if state.uncertain && vars.forceResume then
    combineRunState
      "Clear armed/reset flags before an acknowledged resume attempt"
      fun state =>
        { state with
          bootArmed := false
          resetIssued := false
          actionTokenIssuedAt := none }
  else pure ()

def state : RoleScript Unit := do
  let prior ← priorState
  setRunState "Start from a clean slate when the prior run fully completed"
    (if prior.resetConfirmed then defaultState else prior)
  let state ← theRunState
  refuseUncertain vars state
  clearArmed vars state
  saveState

/-!
## `probe.yml`, `attach_media.yml`, `arm_boot.yml`
-/

def probe : RoleScript Probe := do
  let result ← Script.ask RoleOp.amtInfo
  let found ← ofTask result
  assertThat "Require the endpoint to be reachable" found.reachable
    ("amt_info reports " ++ vars.host ++ " unreachable; refusing to proceed.")
  if vars.bootProvider == "pxe" then
    assertThat "Require native one-time PXE boot support for the pxe provider"
      found.bootOncePxe
      ("amt_baremetal_install_boot_provider=pxe requires " ++
        "AMT_BootCapabilities.ForcePXEBoot support, which " ++ vars.host ++
        " does not advertise. Refusing to arm a boot selection the firmware " ++
        "cannot honour.")
  if vars.bootProvider == "ider_cdrom" then
    assertThat ("Require IDE-R (storage redirection) support for the " ++
        "ider_cdrom provider")
      found.storageRedirection
      ("amt_baremetal_install_boot_provider=ider_cdrom requires " ++
        "AMT_BootCapabilities.IDER support, which " ++ vars.host ++
        " does not advertise. Refusing to attach media the firmware cannot " ++
        "boot from.")
  pure found

/-- The options of the attach. -/
def attachParams (sessionId : Option String) : AmtMedia.Params where
  host := vars.host
  port := vars.mediaPort
  useTls := vars.useTls
  allowInsecureTransport := vars.allowInsecureTransport
  tlsFingerprint := vars.tlsFingerprint
  cdrom := vars.isoPath
  floppy := vars.answerImagePath
  floppyWritable := truthy vars.answerImagePath && vars.answerImageWritable
  startMode := vars.mediaStartMode
  allowedDirectory := vars.mediaAllowedDirectory
  runtimeDir := vars.mediaRuntimeDir
  attachTimeout := vars.mediaAttachTimeout
  sessionId := sessionId
  state := AmtMedia.DesiredState.attached
  interpreter := vars.interpreter

def detachParams (sessionId : Option String) : AmtMedia.Params where
  host := vars.host
  sessionId := sessionId
  runtimeDir := vars.mediaRuntimeDir
  detachTimeout := vars.mediaDetachTimeout
  state := AmtMedia.DesiredState.detached
  interpreter := vars.interpreter

/-- The session id is chosen and persisted before anything can be spawned. -/
def claimSession : RoleScript Unit := do
  let fresh ← Script.ask
    (RoleOp.lookupPassword "length=32 chars=ascii_lowercase,digits")
  combineRunState
    "Claim a media session id before anything can be spawned against it"
    fun state =>
      { state with
        sessionId := some ((AmtMedia.given state.sessionId).getD fresh) }
  saveState

def attachMedia : RoleScript Unit := do
  let redirected ← Script.ask RoleOp.amtRedirection
  ofTask redirected
  claimSession
  let state ← theRunState
  let result ← Script.ask (RoleOp.amtMedia (attachParams vars state.sessionId))
  let attached ← ofTask result
  combineRunState "Record that media is genuinely attached" fun state =>
    { state with
      mediaAttached := true
      sessionId := some attached.sessionId }
  saveState

def armBoot : RoleScript Unit := do
  let token ← Script.ask
    (RoleOp.lookupPassword "length=32 chars=ascii_letters,digits")
  task "Generate a fresh one-time boot action token"
  task "Map the selected boot provider onto amt_boot's device option"
  let result ← Script.ask (RoleOp.amtBoot vars.bootProvider token)
  ofTask result
  let now ← Script.ask RoleOp.now
  combineRunState "Record that the boot selection is armed" fun state =>
    { state with
      bootArmed := true
      actionTokenIssuedAt := some now }
  saveState

/-!
## `reset.yml`, `observe.yml`, `wait_for_handoff.yml`
-/

def powerAction (found : Probe) : PowerAction :=
  if found.powerState.getD "unknown" ∈ ["off", "hibernate"] then
    PowerAction.on
  else PowerAction.reset

def issueTransition (action : PowerAction) : RoleScript Unit := do
  let result ← Script.ask (RoleOp.amtPower action)
  ofTask result
  combineRunState "Record that the power request was accepted" fun state =>
    { state with resetIssued := true }
  saveState

/-- Any failure counts as a reset that may have happened. -/
def recordUncertain (action : PowerAction) : RoleScript Unit := do
  combineRunState "Record an uncertain reset outcome before re-raising"
    fun state =>
      { state with
        resetIssued := true
        lastFailure := some ("amt_power state=" ++ action.name ++
          " failed or timed out; outcome uncertain") }
  saveState
  failWith "Re-raise -- this role never retries a reset automatically"
    ("amt_power state=" ++ action.name ++ " failed or timed out for " ++
      vars.host ++ ". A timeout after the request was sent is " ++
      "indistinguishable from a reset that actually happened, so this run " ++
      "records reset_issued=true and stops rather than guessing. A later run " ++
      "of this role refuses to proceed automatically (see tasks/state.yml) " ++
      "until a human confirms the machine's actual state via the manual " ++
      "recovery path in tests/hardware/README.md and re-runs with -e " ++
      "amt_baremetal_install_force_resume=true.")

def reset (found : Probe) : RoleScript Unit := do
  task "Decide which power transition actually starts this machine"
  task "Report the chosen transition"
  (issueTransition (powerAction found)).handle fun _ =>
    recordUncertain vars (powerAction found)

def confirmReset (observed : Option String) : RoleScript Unit :=
  if observed.getD "" == "on" then
    combineRunState
      "Mark the reset as confirmed once the endpoint reports power on"
      fun state => { state with resetConfirmed := true }
  else pure ()

def warnUnobserved (observed : Option String) : RoleScript Unit :=
  if observed.getD "" == "on" then pure ()
  else
    task ("Warn when the postcondition probe never observed the endpoint " ++
      "powered on")

def observe : RoleScript Unit := do
  let result ← Script.ask RoleOp.amtPowerQuery
  let observed ← ofTask result
  confirmReset observed
  saveState
  warnUnobserved observed

def waitForHandoff : RoleScript Unit := do
  let result ← Script.ask RoleOp.waitFor
  ofTask result

/-!
## `record_failure.yml`, `detach_media.yml`, `main.yml`
-/

def recordFailure (failed : FailedResult) : RoleScript Unit := do
  let defined ← Script.ask RoleOp.runState
  if defined.isSome then
    task "Report the redacted failure detail"
    combineRunState "Record the failure reason for the next resumption attempt"
      fun state => { state with lastFailure := some failed.msg }
    saveState

def detachSession (sessionId : Option String) : RoleScript Unit :=
  if truthy sessionId then do
    let result ← Script.ask (RoleOp.amtMedia (detachParams vars sessionId))
    let _ ← ofTask result
    combineRunState "Record that media has been detached" fun state =>
      { state with detached := true }
  else pure ()

def detachMedia : RoleScript Unit := do
  let state ← theRunState
  detachSession vars state.sessionId
  saveState

/-- What runs inside of the block. -/
def lifecycle : RoleScript Unit := do
  let found ← probe vars
  if vars.bootProvider == "ider_cdrom" then attachMedia vars
  armBoot vars
  reset vars found
  observe
  if vars.waitForHandoff then waitForHandoff

/-- `amt_baremetal_install_fail_msg`. -/
def failMessage (failed : FailedResult) : String :=
  failed.msg ++ " (error_class=" ++ failed.errorClass.getD "unknown" ++
    ", indeterminate=" ++ toString failed.indeterminate ++ ")"

def rescueLifecycle (failed : FailedResult) : RoleScript Unit := do
  recordFailure failed
  failWith "Re-raise -- this role never swallows a failure to keep going"
    ("amt_baremetal_install failed for " ++ vars.host ++ ": " ++
      failMessage failed ++ ". Re-running this role resumes from the last " ++
      "confirmed step rather than starting over blindly; see this role's " ++
      "README.md#resumability before retrying against a boot/reset of " ++
      "uncertain outcome.")

def alwaysDetach : RoleScript Unit := do
  let defined ← Script.ask RoleOp.runState
  if defined.isSome then detachMedia vars

/-- `main.yml`: one run of the role. -/
def main : RoleScript Unit := do
  Script.ask (RoleOp.started vars.forceResume)
  validate vars
  state vars
  ((lifecycle vars).handle (rescueLifecycle vars)).ensuring
    (alwaysDetach vars)

end Tasks
end BaremetalInstall
end IntelAmt
