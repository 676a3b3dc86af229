import IntelAmt.MessageLog.Reading

/-!
# Answers to the methods of the event log

A method is sent with one post.  What follows depends on nothing but the
answer to it.
-/

namespace IntelAmt
namespace MessageLog

open Foundation Wsman Models AmtLogClear

/-!
## Batches
-/

/-- The identifier that output parameters go on with. -/
def nextIdentifier (output : Instance) : Option Int :=
  if truthy (output.lookup "NoMoreRecords") then none
  else optionalInt (output.lookup "IterationIdentifier")

theorem keep_batch (batch : List String) (reading : Reading) :
    (batch.foldl Reading.keep reading).identifier = reading.identifier ∧
      (batch.foldl Reading.keep reading).consumed = reading.consumed := by
  induction batch generalizing reading with
  | nil => exact ⟨rfl, rfl⟩
  | cons item rest ih =>
      rw [List.foldl_cons]
      rcases ih (reading.keep item) with ⟨hidentifier, hconsumed⟩
      rw [hidentifier, hconsumed, Reading.keep]
      split <;> exact ⟨rfl, rfl⟩

theorem take_identifier (reading : Reading) (maxRecords : Int)
    (output : Instance) :
    (reading.take maxRecords output).identifier = reading.identifier :=
  (keep_batch _ _).1

theorem take_consumed (reading : Reading) (maxRecords : Int)
    (output : Instance) :
    (reading.take maxRecords output).consumed = reading.consumed +
      min (maxRecords - reading.consumed).toNat (recordArray output).length := by
  rw [Reading.take, (keep_batch _ _).2, List.length_take]

/-- The reading that a pass goes on with. -/
def Reading.advance (reading : Reading) (maxRecords : Int) (output : Instance)
    (identifier : Int) : Reading :=
  { Reading.take { reading with batches := reading.batches + 1 } maxRecords
      output with
    identifier := identifier }

theorem takeBatch_zero (maxRecords : Int) (reading : Reading)
    (output : Instance) :
    (exists reason,
      takeBatch maxRecords reading output 0 =
          Pass.stopped reason (truthy (output.lookup "NoMoreRecords"))
            (Reading.take { reading with batches := reading.batches + 1 }
              maxRecords output) ∧
        (nextIdentifier output = none ∨
          nextIdentifier output = some reading.identifier)) ∨
      exists identifier, nextIdentifier output = some identifier ∧
        identifier ≠ reading.identifier ∧
        takeBatch maxRecords reading output 0 =
          Pass.next (reading.advance maxRecords output identifier) := by
  have hthree : ¬ (0 : Int) = 3 := by decide
  have htwo : ¬ (0 : Int) = 2 := by decide
  rw [takeBatch, nextIdentifier]
  simp only [if_neg hthree, if_neg htwo]
  cases truthy (output.lookup "NoMoreRecords") with
  | true => exact Or.inl ⟨_, rfl, Or.inl rfl⟩
  | false =>
      cases optionalInt (output.lookup "IterationIdentifier") with
      | none => exact Or.inl ⟨_, rfl, Or.inl rfl⟩
      | some identifier =>
          rw [if_neg Bool.false_ne_true, if_neg Bool.false_ne_true,
            take_identifier]
          dsimp only
          split
          · rename_i heq
            exact Or.inl ⟨_, rfl, Or.inr (congrArg some heq)⟩
          · rename_i hne
            exact Or.inr ⟨identifier, rfl, hne, rfl⟩

theorem takeBatch_tolerated {maxRecords value : Int} {reading : Reading}
    {output : Instance} (h : value ∈ [2, 3]) :
    exists reason,
      takeBatch maxRecords reading output value =
        Pass.stopped reason (value = 3)
          { reading with batches := reading.batches + 1 } := by
  rcases List.mem_cons.mp h with rfl | h
  · exact ⟨_, rfl⟩
  · rw [List.mem_singleton.mp h]
    exact ⟨_, rfl⟩

/-!
## Answers
-/

section Methods

variable (client : Client) (method : String)

/-- The output parameters that an answer brings, whatever value the method
has returned. -/
def outputOf : PostResult -> Option Instance
  | PostResult.response response =>
      match handleResponse client (messageLogClass ++ "." ++ method)
          response with
      | Except.ok body => some (singleInstance body)
      | Except.error _ => none
  | _ => none

/-- The output parameters of a method that has returned zero. -/
def usableOutput (result : PostResult) : Option Instance :=
  (outputOf client method result).filter fun output =>
    extractReturnValue output = 0

/-- What `invoke` makes of the answer to its post. -/
def invoked (result : PostResult) : WsmanScript Instance := do
  let body ← settle client (messageLogClass ++ "." ++ method) raiseAmt result
  ofAmt (methodOutput client (messageLogClass ++ "." ++ method) body)

/-- What follows the post of a method. -/
def judged (tolerated : List Int) (result : PostResult) :
    WsmanScript (Instance × Int) :=
  caughtAs (toleratedValue tolerated) (do
    let output ← invoked client method result
    pure (output, 0))

/-- How a call of a method ends. -/
inductive Judged (tolerated : List Int) (result : PostResult) :
    WsmanScript (Instance × Int) -> Prop where
  | usable (output : Instance)
      (given : outputOf client method result = some output)
      (zero : extractReturnValue output = 0) :
      Judged tolerated result (Script.returned (output, 0))
  | tolerated (output : Instance)
      (given : outputOf client method result = some output)
      (nonzero : extractReturnValue output ≠ 0)
      (known : extractReturnValue output ∈ tolerated) :
      Judged tolerated result
        (Script.returned ([], extractReturnValue output))
  | failed (e : Failure) (reached : e ≠ Failure.waiting)
      (unusable : usableOutput client method result = none) :
      Judged tolerated result (Script.raised e)

end Methods

section Calls

variable {client : Client} {method : String}

theorem usableOutput_some {result : PostResult} {output : Instance}
    (hgiven : outputOf client method result = some output)
    (hzero : extractReturnValue output = 0) :
    usableOutput client method result = some output := by
  rw [usableOutput, hgiven]
  exact if_pos (by simpa using hzero)

theorem usableOutput_none {result : PostResult} {output : Instance}
    (hgiven : outputOf client method result = some output)
    (hnonzero : extractReturnValue output ≠ 0) :
    usableOutput client method result = none := by
  rw [usableOutput, hgiven]
  exact if_neg (by simpa using hnonzero)

/-!
## What is caught
-/

theorem caughtAs_raised {alpha : Type} {errors : AmtError -> Option alpha}
    {error : AmtError} (h : errors error = none) :
    caughtAs errors (raiseAmt error) = raiseAmt error := by
  rw [caughtAs, raiseAmt, Script.handle]
  simp only [h]
  rfl

theorem caughtAs_caught {alpha : Type} {errors : AmtError -> Option alpha}
    {error : AmtError} {a : alpha} (h : errors error = some a) :
    caughtAs errors (raiseAmt error) = Script.returned a := by
  rw [caughtAs, raiseAmt, Script.handle]
  simp only [h]

theorem toleratedValue_none {tolerated : List Int} {error : AmtError}
    (h : error.returnValue = none) : toleratedValue tolerated error = none := by
  rw [toleratedValue, h]
  exact ite_self _

theorem toleratedValue_remote (client : Client) (tolerated : List Int)
    (operation : String) (value : Int) :
    toleratedValue tolerated (remoteOperationError client operation value) =
      if value ∈ tolerated then some ([], value) else none :=
  if_pos rfl

theorem raiseForFault_unreturned {operation : String} {response : Response}
    {body : Element} {error : AmtError}
    (h : raiseForFault client operation response body = Except.error error) :
    error.returnValue = none := by
  unfold raiseForFault at h
  split at h
  · cases h
  · cases h
    rfl

theorem handleResponse_unreturned {operation : String} {response : Response}
    {error : AmtError}
    (h : handleResponse client operation response = Except.error error) :
    error.returnValue = none := by
  unfold handleResponse at h
  dsimp only at h
  split at h
  · cases h
    rfl
  · split at h
    · cases h
      rfl
    · split at h
      · cases h
        rfl
      · split at h
        · cases h
          rfl
        · split at h
          · cases h
            rfl
          · rename_i body _
            cases hfault : raiseForFault client operation response body with
            | ok _ =>
                rw [hfault] at h
                cases h
            | error e =>
                rw [hfault] at h
                cases h
                exact raiseForFault_unreturned hfault

/-!
## Calls
-/

theorem judged_raised {tolerated : List Int} {result : PostResult}
    {error : AmtError} (herror : error.returnValue = none)
    (hsettle : settle client (messageLogClass ++ "." ++ method) raiseAmt
      result = raiseAmt error) :
    judged client method tolerated result = raiseAmt error := by
  rw [judged, invoked, hsettle]
  exact caughtAs_raised (toleratedValue_none herror)

theorem judged_response {tolerated : List Int} {response : Response}
    {body : Element}
    (hbody : handleResponse client (messageLogClass ++ "." ++ method)
      response = Except.ok body) :
    Judged client method tolerated (PostResult.response response)
      (judged client method tolerated (PostResult.response response)) := by
  have hgiven : outputOf client method (PostResult.response response) =
      some (singleInstance body) := by
    rw [outputOf, hbody]
  have hjudged : judged client method tolerated
        (PostResult.response response) =
      caughtAs (toleratedValue tolerated)
        (ofAmt (methodOutput client (messageLogClass ++ "." ++ method) body) >>=
          fun output => Script.returned (output, 0)) := by
    rw [judged, invoked, settle, hbody]
    rfl
  rw [hjudged, methodOutput]
  by_cases hzero : extractReturnValue (singleInstance body) = 0
  · rw [if_pos hzero]
    exact Judged.usable _ hgiven hzero
  · rw [if_neg hzero]
    have hremote := toleratedValue_remote client tolerated
      (messageLogClass ++ "." ++ method)
      (extractReturnValue (singleInstance body))
    by_cases hknown : extractReturnValue (singleInstance body) ∈ tolerated
    · rw [if_pos hknown] at hremote
      have hcaught := caughtAs_caught hremote
      exact hcaught ▸ Judged.tolerated _ hgiven hzero hknown
    · rw [if_neg hknown] at hremote
      have hraised := caughtAs_raised hremote
      have hnone := usableOutput_none hgiven hzero
      exact hraised ▸ Judged.failed _ (fun h => by cases h) hnone

theorem judged_cases (tolerated : List Int) (result : PostResult) :
    Judged client method tolerated result
      (judged client method tolerated result) := by
  have hraised : forall e : AmtError, e.returnValue = none ->
      usableOutput client method result = none ->
      settle client (messageLogClass ++ "." ++ method) raiseAmt result =
        raiseAmt e ->
      Judged client method tolerated result
        (judged client method tolerated result) := by
    intro e he hnone hsettle
    rw [judged_raised he hsettle]
    exact Judged.failed _ (fun h => nomatch h) hnone
  cases result with
  | readTimeout => exact hraised _ rfl rfl rfl
  | sslError reason => exact hraised _ rfl rfl rfl
  | connectTimeout => exact hraised _ rfl rfl rfl
  | connectionError reason => exact hraised _ rfl rfl rfl
  | otherError => exact Judged.failed _ (fun h => nomatch h) rfl
  | response response =>
      cases hbody : handleResponse client (messageLogClass ++ "." ++ method)
          response with
      | ok body => exact judged_response hbody
      | error e =>
          apply hraised e (handleResponse_unreturned hbody)
          · rw [usableOutput, outputOf, hbody]
            rfl
          · rw [settle, hbody]
            rfl

def messageLogUri : String :=
  "http://intel.com/wbem/wscim/1/amt-schema/1/AMT_MessageLog"

theorem resourceUri_messageLog :
    resourceUri messageLogClass = Except.ok messageLogUri := rfl

theorem invokeTolerating_posts {params : List (String × Param)}
    {children : List Element}
    (hparams : appendParams messageLogUri params = Except.ok children)
    (tolerated : List Int) :
    invokeTolerating client method params tolerated =
      Script.call
        (WsmanOp.post (methodRequest method messageLogUri [] children))
        (judged client method tolerated) := by
  rw [invokeTolerating, invoke, resourceUri_messageLog]
  simp only [ofOther, Script.returned_bind, hparams]
  rfl

theorem invokeTolerating_call {params : List (String × Param)}
    {children : List Element}
    (hparams : appendParams messageLogUri params = Except.ok children)
    (tolerated : List Int) :
    exists request, request.action = messageLogUri ++ "/" ++ method ∧
      invokeTolerating client method params tolerated =
        Script.call (WsmanOp.post request)
          (judged client method tolerated) :=
  ⟨_, rfl, invokeTolerating_posts hparams tolerated⟩

theorem judged_usable {tolerated : List Int} {result : PostResult}
    {output : Instance}
    (h : usableOutput client method result = some output) :
    judged client method tolerated result = Script.returned (output, 0) := by
  have hjudged : Judged client method tolerated result
      (judged client method tolerated result) := judged_cases tolerated result
  generalize judged client method tolerated result = x at hjudged ⊢
  cases hjudged with
  | failed e hreached hnone =>
      rw [hnone] at h
      cases h
  | tolerated other hgiven hnonzero hknown =>
      rw [usableOutput_none hgiven hnonzero] at h
      cases h
  | usable other hgiven hzero =>
      rw [usableOutput_some hgiven hzero] at h
      cases h
      rfl

theorem getRecords_call (identifier maxRead : Int) :
    exists request, request.action = messageLogUri ++ "/" ++ "GetRecords" ∧
      getRecords client identifier maxRead =
        Script.call (WsmanOp.post request)
          (judged client "GetRecords" [2, 3]) :=
  invokeTolerating_call rfl _

theorem positionToFirstRecord_call (client : Client) :
    exists request,
      request.action = messageLogUri ++ "/" ++ "PositionToFirstRecord" ∧
      positionToFirstRecord client =
        Script.call (WsmanOp.post request) fun result =>
          judged client "PositionToFirstRecord" [1, 2] result >>= fun answer =>
            if answer.2 = 1 then raiseAmt (noIteration client answer.2)
            else pure (firstIdentifier answer.1, answer.2) := by
  have hcalls : exists request,
      request.action = messageLogUri ++ "/" ++ "PositionToFirstRecord" ∧
      invokeTolerating client "PositionToFirstRecord" [] [1, 2] =
        Script.call (WsmanOp.post request)
          (judged client "PositionToFirstRecord" [1, 2]) :=
    invokeTolerating_call rfl [1, 2]
  rcases hcalls with ⟨request, haction, hcall⟩
  refine ⟨request, haction, ?_⟩
  rw [positionToFirstRecord, hcall]
  rfl

end Calls
end MessageLog
end IntelAmt
