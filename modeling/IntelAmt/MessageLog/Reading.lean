import IntelAmt.AmtBoot.Arm
import IntelAmt.AmtLogClear.Module
import IntelAmt.MessageLog.Records

/-!
# Reading the event log

`read_records`: an iteration of `GetRecords` calls that ends when the firmware
says so, when enough was read, or when it does not go on.
-/

namespace IntelAmt
namespace MessageLog

open Foundation Wsman Models AmtLogClear

/-- `stop_reason` -/
inductive StopReason where
  | noMoreRecords
  | maxRecords
  | noRecordExists
  | noRecordExistsInLog
  | invalidRecordPointed
  | noIterationIdentifier
  | iterationStalled
deriving DecidableEq, Repr

def StopReason.name : StopReason -> String
  | noMoreRecords => "no_more_records"
  | maxRecords => "max_records"
  | noRecordExists => "no_record_exists"
  | noRecordExistsInLog => "no_record_exists_in_log"
  | invalidRecordPointed => "invalid_record_pointed"
  | noIterationIdentifier => "no_iteration_identifier"
  | iterationStalled => "iteration_stalled"

structure MessageLogRead where
  properties : MessageLogProperties
  records : List EventRecord
  totalRecords : Option Int
  truncated : Bool
  complete : Bool
  stopReason : StopReason
  batches : Nat
  emptySlots : Nat := 0
deriving DecidableEq, Repr

/-!
## Batches
-/

/-- The elements of `RecordArray`; one that comes alone is not in a list. -/
def recordElements (output : Instance) : List Value :=
  match output.lookup "RecordArray" with
  | none => []
  | some (Value.list items) => items
  | some other => [other]

/-- `_record_array`. -/
def recordArray (output : Instance) : List String :=
  (recordElements output).filterMap fun item => optionalStr (some item)

/-- What the loop carries along. -/
structure Reading where
  identifier : Int
  records : List EventRecord := []
  consumed : Nat := 0
  emptySlots : Nat := 0
  batches : Nat := 0
deriving DecidableEq, Repr

def Reading.keep (reading : Reading) (item : String) : Reading :=
  let record := decodeRecord item
  if isEmptyRecordSlot record then
    { reading with emptySlots := reading.emptySlots + 1 }
  else { reading with records := reading.records ++ [record] }

/-- A pass of the loop ends the read or goes on. -/
inductive Pass where
  | stopped (reason : StopReason) (complete : Bool) (reading : Reading)
  | next (reading : Reading)
deriving DecidableEq, Repr

/-- The records of a batch, as many as there is room for. -/
def Reading.take (reading : Reading) (maxRecords : Int) (output : Instance) :
    Reading :=
  let batch :=
    (recordArray output).take (maxRecords - reading.consumed).toNat
  batch.foldl Reading.keep
    { reading with consumed := reading.consumed + batch.length }

/-- What a pass makes of the answer to its call. -/
def takeBatch (maxRecords : Int) (reading : Reading) (output : Instance)
    (returnValue : Int) : Pass :=
  let reading := { reading with batches := reading.batches + 1 }
  if returnValue = 3 then
    Pass.stopped StopReason.noRecordExistsInLog true reading
  else if returnValue = 2 then
    Pass.stopped StopReason.invalidRecordPointed false reading
  else
    let reading := reading.take maxRecords output
    if truthy (output.lookup "NoMoreRecords") then
      Pass.stopped StopReason.noMoreRecords true reading
    else
      match optionalInt (output.lookup "IterationIdentifier") with
      | none => Pass.stopped StopReason.noIterationIdentifier false reading
      | some nextIdentifier =>
          if nextIdentifier = reading.identifier then
            Pass.stopped StopReason.iterationStalled false reading
          else Pass.next { reading with identifier := nextIdentifier }

def readOf (properties : MessageLogProperties) (reason : StopReason)
    (truncated complete : Bool) (reading : Reading) : MessageLogRead where
  properties := properties
  records := reading.records
  totalRecords := properties.currentNumberOfRecords
  truncated := truncated
  complete := complete
  stopReason := reason
  batches := reading.batches
  emptySlots := reading.emptySlots

/-!
## Calls
-/

/-- The failure of a method that the caller knows what to make of. -/
def toleratedValue (tolerated : List Int) (error : AmtError) :
    Option (Instance × Int) :=
  if error.errorClass = ErrorClass.remoteOperation then
    match error.returnValue with
    | some value => if value ∈ tolerated then some ([], value) else none
    | none => none
  else none

section Client

variable (client : Client)

/-- `_invoke_tolerating_return_values`. -/
def invokeTolerating (method : String) (params : List (String × Param))
    (tolerated : List Int) : WsmanScript (Instance × Int) :=
  caughtAs (toleratedValue tolerated) (do
    let output ← invoke client messageLogClass method params
    pure (output, 0))

def positionOperation : String :=
  messageLogClass ++ ".PositionToFirstRecord"

def noIteration (returnValue : Int) : AmtError where
  errorClass := ErrorClass.unsupportedCapability
  message := positionOperation ++
    " reported ReturnValue=1 (Not Supported): this firmware does not " ++
    "implement event-log iteration."
  endpoint := some client.endpoint
  operation := some positionOperation
  returnValue := some returnValue

/-- The identifier that an iteration begins with. -/
def firstIdentifier (output : Instance) : Int :=
  ((optionalInt (output.lookup "IterationIdentifier")).filter
    fun identifier => 1 ≤ identifier).getD 1

/-- `_position_to_first_record`. -/
def positionToFirstRecord : WsmanScript (Int × Int) := do
  let (output, returnValue) ←
    invokeTolerating client "PositionToFirstRecord" [] [1, 2]
  if returnValue = 1 then raiseAmt (noIteration client returnValue)
  else pure (firstIdentifier output, returnValue)

def maxReadRecords : Int := 390

/-- One `GetRecords` call. -/
def getRecords (identifier maxRead : Int) : WsmanScript (Instance × Int) :=
  invokeTolerating client "GetRecords"
    [("IterationIdentifier", Param.scalar (Scalar.int identifier)),
      ("MaxReadRecords", Param.scalar (Scalar.int maxRead))]
    [2, 3]

/-- The loop, as far as it is followed. -/
def readUpTo (properties : MessageLogProperties)
    (maxRecords batchSize : Int) : Nat -> Reading ->
      WsmanScript MessageLogRead
  | rounds, reading =>
      if maxRecords ≤ reading.consumed then
        pure (readOf properties StopReason.maxRecords true false reading)
      else
        match rounds with
        | 0 => Script.raised Failure.waiting
        | rounds + 1 => do
            let remaining := maxRecords - reading.consumed
            let (output, returnValue) ←
              getRecords client reading.identifier
                (min (min batchSize remaining) maxReadRecords)
            match takeBatch maxRecords reading output returnValue with
            | Pass.stopped reason complete reading =>
                pure (readOf properties reason false complete reading)
            | Pass.next reading =>
                readUpTo properties maxRecords batchSize rounds reading

/-- `read_records`. -/
def readRecords (pulls rounds : Nat) (maxRecords batchSize : Int) :
    WsmanScript MessageLogRead := do
  let properties ← getLogProperties client pulls
  let (identifier, returnValue) ← positionToFirstRecord client
  if returnValue = 2 then
    pure
      (readOf properties StopReason.noRecordExists false true
        { identifier := identifier })
  else
    readUpTo client properties maxRecords batchSize rounds
      { identifier := identifier }

end Client
end MessageLog
end IntelAmt
