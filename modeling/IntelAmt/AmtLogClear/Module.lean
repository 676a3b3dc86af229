import IntelAmt.Models
import IntelAmt.Wsman.Posts

/-!
# Clearing the event log

The container of `message_log.py`, and the module `amt_log_clear`.
-/

namespace IntelAmt
namespace AmtLogClear

open Foundation Wsman Models

def messageLogClass : String := "AMT_MessageLog"

structure MessageLogProperties where
  currentNumberOfRecords : Option Int
  maxNumberOfRecords : Option Int
  maxRecordSize : Option Int
  elementName : Option String
  isFrozen : Option Bool
  logState : Option Int
  overwritePolicy : Option Int
  capabilities : List Int
deriving DecidableEq, Repr

/-- The values of a property that may be repeated. -/
def candidates : Option Value -> List (Option Value)
  | some (Value.list items) => items.map some
  | other => [other]

/-- `MessageLogProperties.from_instance`. -/
def MessageLogProperties.fromInstance (container : Instance) :
    MessageLogProperties where
  currentNumberOfRecords :=
    optionalInt (container.lookup "CurrentNumberOfRecords")
  maxNumberOfRecords := optionalInt (container.lookup "MaxNumberOfRecords")
  maxRecordSize := optionalInt (container.lookup "MaxRecordSize")
  elementName := optionalStr (container.lookup "ElementName")
  isFrozen :=
    (container.lookup "IsFrozen").map fun value => truthy (some value)
  logState := optionalInt (container.lookup "LogState")
  overwritePolicy := optionalInt (container.lookup "OverwritePolicy")
  capabilities :=
    (candidates (container.lookup "Capabilities")).filterMap optionalInt

/-- `_DEGRADABLE_ERRORS` -/
def degradable (error : AmtError) : Bool :=
  error.errorClass = ErrorClass.protocol ||
    error.errorClass = ErrorClass.unsupportedCapability

/-- `try x except _DEGRADABLE_ERRORS: fallback`. -/
def degrading {alpha : Type} (fallback : alpha) (x : WsmanScript alpha) :
    WsmanScript alpha :=
  caughtAs (fun error => if degradable error then some fallback else none) x

/-- The first dictionary among the items that has an entry. -/
def firstInstance : List Value -> Instance
  | [] => []
  | Value.members (entry :: entries) :: _ => entry :: entries
  | _ :: rest => firstInstance rest

def unavailableMessage : String :=
  messageLogClass ++ " is not available on this endpoint: neither Get nor " ++
  "Enumerate returned an instance. This firmware does not appear to " ++
  "implement the AMT event log."

/-- `CONFIRMATION_REQUIRED_MSG` -/
def confirmationRequiredMessage : String :=
  "Refusing to clear the Intel AMT event log: confirm_destructive is not " ++
  "true. Clearing is irreversible and destroys the only record of why an " ++
  "unattended install failed -- read it with amt_event_log first. Re-run " ++
  "with confirm_destructive=true only after confirming this is the intended " ++
  "target. This refusal also applies in check mode, deliberately."

structure ClearResult where
  changed : Bool
  recordsBefore : Option Int
  recordsAfter : Option Int
  cleared : Bool
  returnValue : Option Int
  log : MessageLogProperties
deriving DecidableEq, Repr

section Client

variable (client : Client) (pulls : Nat)

def unavailable : AmtError where
  errorClass := ErrorClass.unsupportedCapability
  message := unavailableMessage
  endpoint := some client.endpoint
  operation := some ("Get " ++ messageLogClass)

def confirmationRequired : AmtError where
  errorClass := ErrorClass.invalidState
  message := confirmationRequiredMessage
  endpoint := some client.endpoint
  operation := some "amt_log_clear.clear"

/-- The container that an enumeration finds. -/
def enumeratedContainer : WsmanScript Instance := do
  let instances ← degrading [] (enumerate client pulls messageLogClass)
  pure (firstInstance instances)

def propertiesOf (container : Instance) :
    Except AmtError MessageLogProperties :=
  if container.isEmpty then Except.error (unavailable client)
  else Except.ok (MessageLogProperties.fromInstance container)

/-- `get_log_properties`. -/
def getLogProperties : WsmanScript MessageLogProperties := do
  let got ← degrading [] (get client messageLogClass)
  if got.isEmpty then
    let container ← enumeratedContainer client pulls
    ofAmt (propertiesOf client container)
  else ofAmt (propertiesOf client got)

/-- `clear_log`. -/
def clearLog : WsmanScript Instance :=
  invoke client messageLogClass "ClearLog" []

/-- `plan`: an unknown count is not zero. -/
def plan : Option Int -> Bool
  | none => true
  | some recordsBefore => 0 < recordsBefore

/-- What `main` reads back behind the clearing. -/
def observeCleared (properties : MessageLogProperties) :
    WsmanScript ClearResult := do
  let observed ← getLogProperties client pulls
  pure
    { changed := true
      recordsBefore := properties.currentNumberOfRecords
      recordsAfter := observed.currentNumberOfRecords
      cleared := true
      returnValue := some 0
      log := properties }

def clearAndObserve (properties : MessageLogProperties) :
    WsmanScript ClearResult := do
  let _ ← clearLog client
  observeCleared client pulls properties

def notCleared (properties : MessageLogProperties) : ClearResult where
  changed := plan properties.currentNumberOfRecords
  recordsBefore := properties.currentNumberOfRecords
  recordsAfter := none
  cleared := false
  returnValue := none
  log := properties

def requireConfirmation (confirmDestructive : Bool) : Except AmtError Unit :=
  if confirmDestructive then Except.ok ()
  else Except.error (confirmationRequired client)

/-- The `try` block of `main`. -/
def clearBody (confirmDestructive checkMode : Bool) :
    WsmanScript ClearResult := do
  ofAmt (requireConfirmation client confirmDestructive)
  let properties ← getLogProperties client pulls
  if plan properties.currentNumberOfRecords && !checkMode then
    clearAndObserve client pulls properties
  else pure (notCleared properties)

/-- `main`. -/
def main (confirmDestructive checkMode : Bool) :
    WsmanScript (ModuleEnd ClearResult) :=
  caught (clearBody client pulls confirmDestructive checkMode)

end Client

/-!
## What is only read
-/

section Reads

variable {client : Client} {pulls : Nat}

theorem uses_degrading {alpha : Type} {fallback : alpha}
    {x : WsmanScript alpha} (hx : Script.Uses Reading x) :
    Script.Uses Reading (degrading fallback x) := by
  apply Script.uses_handle hx
  intro e
  cases e with
  | amt error =>
      cases hdegradable : degradable error with
      | true =>
          simp only [hdegradable, if_true]
          trivial
      | false =>
          simp only [hdegradable, Bool.false_eq_true, if_false]
          trivial
  | other _ => trivial
  | waiting => trivial

theorem getLogProperties_reads :
    Script.Uses Reading (getLogProperties client pulls) := by
  apply Script.uses_bind (uses_degrading (uses_get client _ _))
  intro got
  cases got.isEmpty with
  | true =>
      apply Script.uses_bind
      · exact Script.uses_bind (uses_degrading (uses_enumerate client _ _ _))
          fun _ => trivial
      · exact fun _ => uses_ofAmt _
  | false => exact uses_ofAmt _

end Reads
end AmtLogClear
end IntelAmt
