import IntelAmt.Models
import IntelAmt.Wsman.Client

/-!
# Power

`AmtClient.get_power_state`, `request_power_state` with its probes, and the
module `amt_power` around them.
-/

namespace IntelAmt
namespace AmtPower

open Foundation Wsman Models

inductive PowerAction where
  | on
  | off
  | reset
  | reboot
  | cycle
  | sleepLight
  | sleepDeep
  | hibernate
deriving DecidableEq, Repr

/-- `_POWER_ACTION_CODES` -/
def PowerAction.code : PowerAction -> Int
  | on => 2
  | sleepLight => 3
  | sleepDeep => 4
  | cycle => 5
  | hibernate => 7
  | off => 8
  | reset => 10
  | reboot => 10

/-- `_ACTION_EXPECTED_STATE` -/
def PowerAction.expectedState : PowerAction -> String
  | sleepLight => "sleep"
  | sleepDeep => "sleep"
  | hibernate => "hibernate"
  | off => "off"
  | _ => "on"

/-- `_CONVERGENT_STATES` -/
def PowerAction.convergent : PowerAction -> Bool
  | on => true
  | off => true
  | hibernate => true
  | _ => false

/-- What `request_power_state` reports. -/
structure PowerReceipt where
  changed : Bool
  previous : PowerState
  desired : Option String
  observed : Option PowerState := none
  returnValue : Option Int := none
  probes : List PowerState := []
deriving DecidableEq, Repr

def pollCount : Int := 5

def pollDelay : Rat := 2

section Client

variable (client : Client)

/-- `get_power_state`. -/
def getPowerState : WsmanScript PowerState := do
  let associated ← get client "CIM_AssociatedPowerManagementService"
  pure (PowerState.fromCimValue (associated.lookup "PowerState"))

/-- The probes behind an accepted request.  One that fails is only not
there. -/
def probeUpTo (expected : String) : Nat -> Option PowerState ->
    List PowerState -> WsmanScript (Option PowerState × List PowerState)
  | 0, observed, probes => pure (observed, probes)
  | left + 1, observed, probes => do
      let _ ← Script.ask (WsmanOp.sleep pollDelay)
      let probe ← caught (getPowerState client)
      match probe with
      | Except.error _ => probeUpTo expected left observed probes
      | Except.ok state =>
          if state.normalized = expected then
            pure (some state, probes ++ [state])
          else probeUpTo expected left (some state) (probes ++ [state])

def requestPowerStateChange (action : PowerAction) : WsmanScript Instance :=
  invoke client "CIM_PowerManagementService" "RequestPowerStateChange"
    [("PowerState", Param.scalar (Scalar.int action.code)),
      ("ManagedElement",
        Param.reference
          { resourceClass := "CIM_ComputerSystem"
            selectors := [("Name", "ManagedSystem")] })]

/-- `request_power_state` behind the request. -/
def observeTransition (action : PowerAction) (previous : PowerState) :
    WsmanScript PowerReceipt := do
  let (observed, probes) ←
    probeUpTo client action.expectedState pollCount.toNat none []
  pure
    { changed := true
      previous := previous
      desired := some action.expectedState
      observed := observed
      returnValue := some 0
      probes := probes }

def requestPowerState (action : PowerAction) : WsmanScript PowerReceipt := do
  let previous ← getPowerState client
  let _ ← requestPowerStateChange client action
  observeTransition client action previous

/-- `plan`; `query` is no action. -/
def plan (state : Option PowerAction) (previous : String) :
    Bool × Option String :=
  match state with
  | none => (false, none)
  | some action =>
      (!action.convergent || previous ≠ action.expectedState,
        some action.expectedState)

/-- The `try` block of `main`. -/
def powerBody (state : Option PowerAction) (checkMode : Bool) :
    WsmanScript PowerReceipt := do
  let previous ← getPowerState client
  let planned := plan state previous.normalized
  match state with
  | some action =>
      if planned.1 && !checkMode then requestPowerState client action
      else
        pure { changed := planned.1, previous := previous, desired := planned.2 }
  | none =>
      pure { changed := planned.1, previous := previous, desired := planned.2 }

/-- `main`. -/
def main (state : Option PowerAction) (checkMode : Bool) :
    WsmanScript (ModuleEnd PowerReceipt) :=
  caught (powerBody client state checkMode)

end Client
end AmtPower
end IntelAmt
