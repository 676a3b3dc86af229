import IntelAmt.AmtInfo.Facts
import IntelAmt.AmtMedia.Module
import IntelAmt.AmtPower.Module
import IntelAmt.AmtRedirection.Module
import IntelAmt.MessageLog.Reading
import IntelAmt.Wsman.Connection

/-!
# The modules from their options on

Every module of the collection from its connection options to its end: where
it builds its client, and what it does with it.
-/

namespace IntelAmt
namespace AmtModules

open Foundation Wsman

/-- How a module ends: with a result, with a classified failure, or with a
message alone. -/
inductive MainEnd (alpha : Type) where
  | exitJson (result : alpha)
  | failJson (error : AmtError)
  | failMessage (message : String)

def MainEnd.of {alpha : Type} : ModuleEnd alpha -> MainEnd alpha
  | Except.ok result => exitJson result
  | Except.error error => failJson error

def reported {alpha : Type} (x : WsmanScript (ModuleEnd alpha)) :
    WsmanScript (MainEnd alpha) := do
  let ending ← x
  pure (MainEnd.of ending)

/-- `try: wsman = build_wsman_client(params) ... except AmtError`. -/
def buildingInside {alpha : Type} (options : ConnectionOptions)
    (body : ClientSetup -> WsmanScript alpha) : WsmanScript (MainEnd alpha) :=
  reported (caught (do
    let setup ← ofAmt (fromConnectionOptions options)
    body setup))

/-- `client = WsmanClient.from_connection_options(...)` in front of the
`try`. -/
def buildingInFront {alpha : Type} (options : ConnectionOptions)
    (body : ClientSetup -> WsmanScript (ModuleEnd alpha)) :
    WsmanScript (MainEnd alpha) := do
  let setup ← ofAmt (fromConnectionOptions options)
  reported (body setup)

section Mains

variable (options : ConnectionOptions) (pulls : Nat)

/-- `amt_boot` -/
def bootMain (device : String) (actionToken : Option String)
    (checkMode : Bool) : WsmanScript (MainEnd AmtBoot.BootArmResult) :=
  buildingInFront options fun setup =>
    AmtBoot.main setup.client pulls device actionToken checkMode

/-- `amt_redirection` -/
def redirectionMain (desired : Option AmtRedirection.StateName)
    (checkMode : Bool) :
    WsmanScript (MainEnd AmtRedirection.RedirectionResult) :=
  buildingInFront options fun setup =>
    AmtRedirection.main setup.client pulls options.host desired checkMode

/-- `amt_power` -/
def powerMain (state : Option AmtPower.PowerAction) (checkMode : Bool) :
    WsmanScript (MainEnd AmtPower.PowerReceipt) :=
  buildingInside options fun setup =>
    AmtPower.powerBody setup.client state checkMode

/-- `amt_log_clear` -/
def logClearMain (confirmDestructive checkMode : Bool) :
    WsmanScript (MainEnd AmtLogClear.ClearResult) :=
  buildingInside options fun setup =>
    AmtLogClear.clearBody setup.client pulls confirmDestructive checkMode

/-!
## The facts
-/

/-- A read of a class, with its failure as a value. -/
def performRead (client : Client) :
    (o : AmtInfo.FactsRead) -> WsmanScript (AmtInfo.FactsAnswer o)
  | AmtInfo.FactsRead.get resourceClass selectors =>
      caught (get client resourceClass selectors)
  | AmtInfo.FactsRead.enumerate resourceClass =>
      caught (enumerate client pulls resourceClass)

/-- `amt_info` -/
def infoMain (gatherSubset : List String) :
    WsmanScript (MainEnd AmtInfo.AmtFacts) :=
  let subsets := Hardware.resolveGatherSubset gatherSubset
  buildingInside options fun setup =>
    Script.through (performRead pulls setup.client) (AmtInfo.getFacts subsets)

/-!
## The event log
-/

structure EventLogResult where
  records : List MessageLog.EventRecord
  totalRecords : Option Int
  recordsRead : Nat
  emptySlots : Nat
  filteredOut : Nat
  truncated : Bool
  complete : Bool
  stopReason : MessageLog.StopReason
  batches : Nat
  log : AmtLogClear.MessageLogProperties

/-- `filter_by_severity`. -/
def filterBySeverity (records : List MessageLog.EventRecord)
    (severities : List String) : List MessageLog.EventRecord :=
  if severities.isEmpty then records
  else
    records.filter fun record =>
      record.eventSeverityText.any fun text => severities.contains text

/-- `build_result`. -/
def buildResult (read : MessageLog.MessageLogRead)
    (severities : List String) : EventLogResult :=
  let kept := filterBySeverity read.records severities
  { records := kept
    totalRecords := read.totalRecords
    recordsRead := read.records.length
    emptySlots := read.emptySlots
    filteredOut := read.records.length - kept.length
    truncated := read.truncated
    complete := read.complete
    stopReason := read.stopReason
    batches := read.batches
    log := read.properties }

def maxRecordsMessage (maxRecords : Int) : String :=
  "max_records must be at least 1, got " ++ toString maxRecords

/-- `amt_event_log`; a list of severities that is not given is empty. -/
def eventLogMain (rounds : Nat) (maxRecords : Int)
    (severities : List String) : WsmanScript (MainEnd EventLogResult) :=
  if maxRecords < 1 then
    Script.returned (MainEnd.failMessage (maxRecordsMessage maxRecords))
  else
    buildingInside options fun setup => do
      let read ←
        MessageLog.readRecords setup.client pulls rounds maxRecords
          MessageLog.maxReadRecords
      pure (buildResult read severities)

end Mains

/-!
## Calls of the modules
-/

/-- A call of a module of the management plane, without its connection
options. -/
inductive ManagementCall where
  | boot (device : String) (actionToken : Option String) (checkMode : Bool)
  | redirection (desired : Option AmtRedirection.StateName)
      (checkMode : Bool)
  | power (state : Option AmtPower.PowerAction) (checkMode : Bool)
  | info (gatherSubset : List String)
  | eventLog (maxRecords : Int) (severities : List String)
  | logClear (confirmDestructive checkMode : Bool)

namespace ManagementCall

def moduleName : ManagementCall -> String
  | boot _ _ _ => "amt_boot"
  | redirection _ _ => "amt_redirection"
  | power _ _ => "amt_power"
  | info _ => "amt_info"
  | eventLog _ _ => "amt_event_log"
  | logClear _ _ => "amt_log_clear"

@[reducible] def Result : ManagementCall -> Type
  | boot _ _ _ => AmtBoot.BootArmResult
  | redirection _ _ => AmtRedirection.RedirectionResult
  | power _ _ => AmtPower.PowerReceipt
  | info _ => AmtInfo.AmtFacts
  | eventLog _ _ => EventLogResult
  | logClear _ _ => AmtLogClear.ClearResult

/-- `main`; `pulls` and `rounds` bound how far enumerations and the event log
are followed. -/
def main (options : ConnectionOptions) (pulls rounds : Nat) :
    (call : ManagementCall) -> WsmanScript (MainEnd call.Result)
  | boot device actionToken checkMode =>
      bootMain options pulls device actionToken checkMode
  | redirection desired checkMode =>
      redirectionMain options pulls desired checkMode
  | power state checkMode => powerMain options state checkMode
  | info gatherSubset => infoMain options pulls gatherSubset
  | eventLog maxRecords severities =>
      eventLogMain options pulls rounds maxRecords severities
  | logClear confirmDestructive checkMode =>
      logClearMain options pulls confirmDestructive checkMode

end ManagementCall

def mediaParams (options : ConnectionOptions) (params : AmtMedia.Params) :
    AmtMedia.Params :=
  { params with
    host := options.host
    port := options.port
    useTls := options.useTls
    allowInsecureTransport := options.allowInsecureTransport
    caPath := options.caPath
    tlsFingerprint := options.tlsFingerprint }

end AmtModules
end IntelAmt
