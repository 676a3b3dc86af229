import IntelAmt.AmtBoot.Arm
import IntelAmt.Models

/-!
# The redirection service

`redirection_service.py`: what is supported, what is enabled and what can be
reached, and the module `amt_redirection` around it.
-/

namespace IntelAmt
namespace AmtRedirection

open Foundation Wsman Models

inductive StateName where
  | disabled
  | ider
  | sol
  | all
deriving DecidableEq, Repr

def StateName.name : StateName -> String
  | disabled => "disabled"
  | ider => "ider"
  | sol => "sol"
  | all => "all"

/-- `STATE_NAME_TO_ENABLED_STATE` -/
def StateName.enabledState : StateName -> Int
  | disabled => 32768
  | ider => 32769
  | sol => 32770
  | all => 32771

/-- `ENABLED_STATE_TO_STATE_NAME` -/
def stateNameOf (enabledState : Int) : Option StateName :=
  [StateName.disabled, StateName.ider, StateName.sol, StateName.all].find?
    fun state => state.enabledState = enabledState

def defaultRedirectionPorts : List Nat := [16994, 16995]

/-- `_truthy`. -/
def truthy (value : Option Value) : Bool := AmtBoot.truthy value

structure RedirectionCapabilities where
  iderSupported : Bool
  solSupported : Bool
deriving DecidableEq, Repr

structure RedirectionStatus where
  capabilities : RedirectionCapabilities
  state : RedirectionState
  transportReachable : List (Nat × Bool)
deriving DecidableEq, Repr

structure RedirectionResult where
  changed : Bool
  previous : Option StateName
  desired : Option StateName
  status : RedirectionStatus
deriving DecidableEq, Repr

def onlyCapabilities (instances : List Value) : Except AmtError Value :=
  match instances with
  | [capabilities] => Except.ok capabilities
  | _ =>
      Except.error
        (AmtBoot.unsupported "discover_redirection_capabilities"
          ("expected exactly one AMT_BootCapabilities instance, found " ++
            toString instances.length))

def unsupportedState (feature : String) (state : StateName) : AmtError :=
  AmtBoot.unsupported "validate_redirection_state_change"
    ("firmware does not advertise " ++ feature ++ " support in " ++
      "AMT_BootCapabilities; cannot request state=" ++ reprText state.name)

/-- `validate_state_change`. -/
def validateStateChange (capabilities : RedirectionCapabilities)
    (state : StateName) : Except AmtError Unit :=
  if (state = StateName.ider || state = StateName.all) &&
      !capabilities.iderSupported then
    Except.error (unsupportedState "IDER" state)
  else if (state = StateName.sol || state = StateName.all) &&
      !capabilities.solSupported then
    Except.error (unsupportedState "SOL" state)
  else Except.ok ()

section Client

variable (client : Client) (pulls : Nat) (host : String)

def getCapabilities : WsmanScript RedirectionCapabilities := do
  let instances ← enumerate client pulls "AMT_BootCapabilities"
  let capabilities ← ofAmt (onlyCapabilities instances)
  let ider ← ofOther (AmtBoot.getMember "IDER" capabilities)
  let sol ← ofOther (AmtBoot.getMember "SOL" capabilities)
  pure { iderSupported := truthy ider, solSupported := truthy sol }

def getState : WsmanScript RedirectionState := do
  let service ← get client "AMT_RedirectionService"
  pure
    (RedirectionState.fromEnabledState (service.lookup "EnabledState")
      (truthy (service.lookup "ListenerEnabled")))

/-- `probe_transport_reachable`. -/
def probeTransportReachable : List Nat -> WsmanScript (List (Nat × Bool))
  | [] => pure []
  | port :: rest => do
      let reachable ← Script.ask (WsmanOp.connect host port)
      let others ← probeTransportReachable rest
      pure ((port, reachable) :: others)

def getStatus : WsmanScript RedirectionStatus := do
  let capabilities ← getCapabilities client pulls
  let state ← getState client
  let reachable ← probeTransportReachable host defaultRedirectionPorts
  pure
    { capabilities := capabilities
      state := state
      transportReachable := reachable }

def requestStateChange (state : StateName) : WsmanScript Instance :=
  invoke client "AMT_RedirectionService" "RequestStateChange"
    [("RequestedState", Param.scalar (Scalar.int state.enabledState))]

/-- What `main` reads back behind the change. -/
def observeChanged (previous : Option StateName) (state : StateName) :
    WsmanScript RedirectionResult := do
  let status ← getStatus client pulls host
  pure
    { changed := true
      previous := previous
      desired := some state
      status := status }

def changeAndObserve (previous : Option StateName) (state : StateName) :
    WsmanScript RedirectionResult := do
  let _ ← requestStateChange client state
  observeChanged client pulls host previous state

/-- `main` behind the first status. -/
def changeState (desired : Option StateName) (checkMode : Bool)
    (status : RedirectionStatus) : WsmanScript RedirectionResult :=
  let previous := stateNameOf status.state.enabledState
  match desired with
  | none =>
      pure
        { changed := false
          previous := previous
          desired := none
          status := status }
  | some state =>
      if some state = previous then
        pure
          { changed := false
            previous := previous
            desired := some state
            status := status }
      else do
        ofAmt (validateStateChange status.capabilities state)
        if checkMode then
          pure
            { changed := true
              previous := previous
              desired := some state
              status := status }
        else changeAndObserve client pulls host previous state

/-- The `try` block of `main`. -/
def redirectionBody (desired : Option StateName) (checkMode : Bool) :
    WsmanScript RedirectionResult := do
  let status ← getStatus client pulls host
  changeState client pulls host desired checkMode status

/-- `main`. -/
def main (desired : Option StateName) (checkMode : Bool) :
    WsmanScript (ModuleEnd RedirectionResult) :=
  caught (redirectionBody client pulls host desired checkMode)

end Client
end AmtRedirection
end IntelAmt
