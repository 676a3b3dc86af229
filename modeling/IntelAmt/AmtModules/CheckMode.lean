import IntelAmt.AmtModules.Mains
import IntelAmt.AmtModules.PlainFailures
import IntelAmt.Foundation.Rehearsals

/-!
# Check mode rehearses the call

Every module of the management plane does in check mode what it does without
it, up to where it would change something for the first time.  It changes
nothing itself, and it reports a change exactly when the call goes on from
there to make one.
-/

namespace IntelAmt
namespace AmtModules

open Foundation Wsman

/-- The methods that an iteration over the event log calls. -/
def iterationActions : List String :=
  [messageLogUri ++ "/PositionToFirstRecord", messageLogUri ++ "/GetRecords"]

/-- A request that reads, or calls for an iteration. -/
def observes (request : Request) : Bool :=
  request.reads || iterationActions.contains request.action

def Observing : WsmanOp -> Prop
  | WsmanOp.post request => observes request = true
  | _ => True

theorem observing_of_reading {o : WsmanOp} (h : Reading o) : Observing o := by
  cases o with
  | post request =>
      have hreads : request.reads = true := h
      rw [Observing, observes, hreads, Bool.true_or]
  | sleep _ => trivial
  | connect _ _ => trivial

theorem uses_observing {alpha : Type} {x : WsmanScript alpha}
    (hx : Script.Uses Reading x) : Script.Uses Observing x :=
  Script.uses_mono hx fun _ => observing_of_reading

theorem observes_methods :
    observes (methodRequest "RequestPowerStateChange" AmtPower.powerUri [] []) =
        false ∧
      observes (methodRequest "RequestStateChange" stateUri [] []) = false ∧
      observes (AmtBoot.orderRequest none) = false ∧
      observes (methodRequest "ClearLog" messageLogUri [] []) = false ∧
      observes (methodRequest "PositionToFirstRecord" messageLogUri [] []) =
        true ∧
      observes (methodRequest "GetRecords" messageLogUri [] []) = true := by
  decide +kernel

section Scripts

variable {client : Client} {pulls : Nat} {alpha : Type}

/-!
## Changes
-/

theorem loud_of_issues {x : WsmanScript alpha} {request : Request}
    {rest : List Request} (hx : Issues client x (request :: rest))
    (hloud : observes request = false) :
    forall log a, Script.After x log (Script.returned a) ->
      exists exchange, exchange ∈ log ∧ ¬ Observing exchange.1 := by
  intro log a h
  have horder := ((hx log _ h).2 a rfl).order
  have hmem : request ∈ (mutations log).map Prod.fst := by
    rw [horder]
    exact List.mem_cons_self
  rcases List.mem_map.mp hmem with ⟨post, hpost, hrequest⟩
  rcases List.mem_filterMap.mp hpost with ⟨exchange, hexchange, hmutation⟩
  refine ⟨exchange, hexchange, ?_⟩
  rcases exchange with ⟨o, answer⟩
  cases o with
  | post request' =>
      have hsame : request' = request := by
        rw [← hrequest]
        cases hreads : request'.reads with
        | true => simp [mutation, hreads] at hmutation
        | false =>
            simp only [mutation, hreads, Bool.false_eq_true, if_false,
              Option.some.injEq] at hmutation
            rw [← hmutation]
      rw [hsame]
      exact Bool.eq_false_iff.mp hloud
  | sleep _ => cases hmutation
  | connect _ _ => cases hmutation

theorem execute_runs (request : Request) (operation : String)
    (retryable : Bool) (f : Element -> WsmanScript alpha) :
    (execute client request operation retryable >>= f).ended = false := by
  rw [execute]
  generalize (if retryable = true then client.maxRetries.toNat else 0) = left
  cases left <;> rfl

theorem changes_runs {x : WsmanScript alpha} {request : Request}
    (hx : Changes client x request) : x.ended = false := by
  rcases hx with ⟨_, operation, judge, hx, _⟩
  rw [hx]
  exact execute_runs request operation false judge

theorem bind_runs {beta : Type} {x : WsmanScript alpha}
    {f : alpha -> WsmanScript beta} (h : x.ended = false) :
    (x >>= f).ended = false := by
  cases x with
  | returned a => cases h
  | raised e => cases h
  | call o next => rfl

/-!
## The four modules that change something
-/

theorem power_rehearses (state : Option AmtPower.PowerAction) :
    Script.Rehearses Observing
      (fun receipt : AmtPower.PowerReceipt => receipt.changed = true)
      (fun _ => True) (AmtPower.powerBody client state true)
      (AmtPower.powerBody client state false) := by
  apply Script.rehearses_bind (uses_observing AmtPower.getPowerState_reads)
  intro previous
  cases state with
  | none => exact Script.rehearses_returned Bool.false_ne_true
  | some action =>
      dsimp only
      cases hplan : (AmtPower.plan (some action) previous.normalized).1 with
      | false =>
          simp only [Bool.false_and, Bool.false_eq_true, if_false]
          exact Script.rehearses_returned Bool.false_ne_true
      | true =>
          refine Script.Rehearses.announced rfl ?_ ?_
          · exact bind_runs (bind_runs (execute_runs _ _ _ _))
          · apply Script.commits_behind
            intro before
            apply Script.commits_front
            · exact loud_of_issues
                (issues_of_changes
                  (AmtPower.requestPowerStateChange_changes action))
                observes_methods.1
            · exact fun _ => Script.returns_bind (Script.returns_trivial _)
                fun _ _ => rfl

theorem redirection_rehearses (host : String)
    (desired : Option AmtRedirection.StateName) :
    Script.Rehearses Observing
      (fun result : AmtRedirection.RedirectionResult => result.changed = true)
      (fun _ => True)
      (AmtRedirection.redirectionBody client pulls host desired true)
      (AmtRedirection.redirectionBody client pulls host desired false) := by
  apply Script.rehearses_bind (uses_observing (getStatus_reads host))
  intro status
  cases desired with
  | none => exact Script.rehearses_returned Bool.false_ne_true
  | some state =>
      simp only [AmtRedirection.changeState]
      by_cases hsame : some state =
          AmtRedirection.stateNameOf status.state.enabledState
      · rw [if_pos hsame, if_pos hsame]
        exact Script.rehearses_returned Bool.false_ne_true
      · rw [if_neg hsame, if_neg hsame]
        apply Script.rehearses_bind (uses_ofAmt _)
        intro _
        have hchanges :=
          @requestStateChange_changes client state
        refine Script.Rehearses.announced rfl ?_ ?_
        · exact bind_runs (changes_runs hchanges)
        · apply Script.commits_front
          · exact loud_of_issues (issues_of_changes hchanges)
              observes_methods.2.1
          · exact fun _ => Script.returns_bind (Script.returns_trivial _)
              fun _ _ => rfl

theorem boot_rehearses (device : String) (actionToken : Option String)
    {announces : AmtBoot.BootArmResult -> Prop}
    (hannounces : forall result, announces result) :
    Script.Rehearses Observing announces (fun _ => True)
      (AmtBoot.armOneTimeBoot client pulls device actionToken true)
      (AmtBoot.armOneTimeBoot client pulls device actionToken false) := by
  apply Script.rehearses_bind (uses_ofAmt _)
  intro _
  cases hplan : AmtBoot.buildBootPlan device with
  | error e => exact Script.rehearses_raised e
  | ok plan =>
      apply Script.rehearses_bind
        (uses_observing (AmtBoot.readSettings_reads plan))
      intro previous
      refine Script.Rehearses.announced (hannounces _) ?_ ?_
      · exact bind_runs (bind_runs
          (changes_runs (AmtBoot.clearBootOrder_changes client)))
      · apply Script.commits_front
        · exact loud_of_issues (AmtBoot.armSteps_issues client plan _)
            observes_methods.2.2.1
        · exact fun _ => Script.returns_bind (Script.returns_trivial _)
            fun _ _ => hannounces _

theorem logClear_rehearses (confirmDestructive : Bool) :
    Script.Rehearses Observing
      (fun result : AmtLogClear.ClearResult => result.changed = true)
      (fun _ => True)
      (AmtLogClear.clearBody client pulls confirmDestructive true)
      (AmtLogClear.clearBody client pulls confirmDestructive false) := by
  apply Script.rehearses_bind (uses_ofAmt _)
  intro _
  apply Script.rehearses_bind (uses_observing AmtLogClear.getLogProperties_reads)
  intro properties
  cases hplan : AmtLogClear.plan properties.currentNumberOfRecords with
  | false =>
      apply Script.rehearses_returned
      rw [AmtLogClear.notCleared, hplan]
      exact Bool.false_ne_true
  | true =>
      refine Script.Rehearses.announced hplan ?_ ?_
      · exact bind_runs (changes_runs clearLog_changes)
      · apply Script.commits_front
        · exact loud_of_issues (issues_of_changes clearLog_changes)
            observes_methods.2.2.2.1
        · exact fun _ => Script.returns_bind (Script.returns_trivial _)
            fun _ _ => rfl

/-!
## The two modules that change nothing
-/

theorem uses_through {op : Type} {answer : op -> Type} {allowed : WsmanOp -> Prop}
    {perform : (o : op) -> WsmanScript (answer o)}
    (hperform : forall o, Script.Uses allowed (perform o))
    (x : Script op answer Failure alpha) :
    Script.Uses allowed (Script.through perform x) := by
  induction x with
  | returned a => trivial
  | raised e => trivial
  | call o next ih => exact Script.uses_bind (hperform o) fun a => ih a

theorem uses_caughtAs {allowed : WsmanOp -> Prop}
    {errors : AmtError -> Option alpha} {x : WsmanScript alpha}
    (hx : Script.Uses allowed x) : Script.Uses allowed (caughtAs errors x) := by
  apply Script.uses_handle hx
  intro e
  cases e with
  | amt error =>
      dsimp only
      cases errors error <;> trivial
  | other _ => trivial
  | waiting => trivial

theorem uses_caught {allowed : WsmanOp -> Prop} {x : WsmanScript alpha}
    (hx : Script.Uses allowed x) : Script.Uses allowed (caught x) :=
  uses_caughtAs (Script.uses_bind hx fun _ => trivial)

theorem performRead_reads (o : AmtInfo.FactsRead) :
    Script.Uses Reading (performRead pulls client o) := by
  cases o with
  | get resourceClass selectors =>
      exact uses_caught (uses_get client _ _)
  | enumerate resourceClass =>
      exact uses_caught (uses_enumerate client _ _ _)

theorem invokeTolerating_observes {method : String}
    {params : List (String × Param)} {tolerated : List Int}
    (hmethod : observes (methodRequest method messageLogUri [] []) = true) :
    Script.Uses Observing
      (MessageLog.invokeTolerating client method params tolerated) := by
  have huri : resourceUri AmtLogClear.messageLogClass =
      Except.ok messageLogUri := rfl
  apply uses_caughtAs
  refine Script.uses_bind ?_ fun _ => trivial
  rw [invoke, huri]
  simp only [ofOther, Script.returned_bind]
  apply Script.uses_bind (uses_ofOther _)
  intro children
  apply Script.uses_bind (uses_execute client _) fun _ => uses_ofAmt _
  exact hmethod

theorem readUpTo_observes (properties : AmtLogClear.MessageLogProperties)
    (maxRecords batchSize : Int) (rounds : Nat)
    (reading : MessageLog.Reading) :
    Script.Uses Observing
      (MessageLog.readUpTo client properties maxRecords batchSize rounds
        reading) := by
  induction rounds generalizing reading with
  | zero =>
      rw [MessageLog.readUpTo]
      split <;> trivial
  | succ rounds ih =>
      rw [MessageLog.readUpTo]
      split
      · trivial
      · apply Script.uses_bind
          (invokeTolerating_observes observes_methods.2.2.2.2.2)
        intro output
        dsimp only
        split
        · trivial
        · exact ih _

theorem readRecords_observes (rounds : Nat) (maxRecords batchSize : Int) :
    Script.Uses Observing
      (MessageLog.readRecords client pulls rounds maxRecords batchSize) := by
  apply Script.uses_bind (uses_observing AmtLogClear.getLogProperties_reads)
  intro properties
  apply Script.uses_bind
  · apply Script.uses_bind
      (invokeTolerating_observes observes_methods.2.2.2.2.1)
    intro output
    dsimp only
    split <;> trivial
  · intro position
    dsimp only
    split
    · trivial
    · exact readUpTo_observes _ _ _ _ _

end Scripts

/-!
## Every module
-/

namespace ManagementCall

/-- The `changed` of a result. -/
def changed : (call : ManagementCall) -> call.Result -> Bool
  | boot _ _ _, _ => true
  | redirection _ _, result => result.changed
  | power _ _, receipt => receipt.changed
  | info _, _ => false
  | eventLog _ _, _ => false
  | logClear _ _, result => result.changed

/-- `main`, in check mode or not. -/
def mainIn (options : ConnectionOptions) (pulls rounds : Nat)
    (checkMode : Bool) :
    (call : ManagementCall) -> WsmanScript (MainEnd call.Result)
  | boot device actionToken _ =>
      bootMain options pulls device actionToken checkMode
  | redirection desired _ => redirectionMain options pulls desired checkMode
  | power state _ => powerMain options state checkMode
  | info gatherSubset => infoMain options pulls gatherSubset
  | eventLog maxRecords severities =>
      eventLogMain options pulls rounds maxRecords severities
  | logClear confirmDestructive _ =>
      logClearMain options pulls confirmDestructive checkMode

def checkMode : ManagementCall -> Bool
  | boot _ _ checkMode => checkMode
  | redirection _ checkMode => checkMode
  | power _ checkMode => checkMode
  | info _ => false
  | eventLog _ _ => false
  | logClear _ checkMode => checkMode

end ManagementCall

section Endings

variable {alpha : Type} {announces : alpha -> Prop}

/-- The results that a module has exited with. -/
def ExitsWith (accepts : alpha -> Prop) (ending : MainEnd alpha) : Prop :=
  exists result, ending = MainEnd.exitJson result ∧ accepts result

theorem rehearses_caught {check real : WsmanScript alpha}
    (h : Script.Rehearses Observing announces (fun _ => True) check real) :
    Script.Rehearses Observing (ExitsWith announces)
      (ExitsWith fun _ => True) (reported (caught check))
      (reported (caught real)) := by
  have hcaught : Script.Rehearses Observing
      (fun ending : ModuleEnd alpha =>
        exists result, ending = Except.ok result ∧ announces result)
      (fun ending => exists result, ending = Except.ok result)
      (caught check) (caught real) := by
    apply Script.Rehearses.handled
    · intro e
      cases e with
      | amt error =>
          refine ⟨rfl, fun ending hending => ?_⟩
          cases hending
          constructor
          · intro hok
            cases hok.choose_spec.1
          · intro hok
            cases hok.choose_spec
      | other _ => exact ⟨rfl, fun _ hending => nomatch hending⟩
      | waiting => exact ⟨rfl, fun _ hending => nomatch hending⟩
    · refine Script.Rehearses.mapped (fun a => ?_) (fun _ _ => trivial) h
      constructor
      · intro hok
        rcases hok with ⟨result, hresult, hannounces⟩
        cases hresult
        exact hannounces
      · exact fun hannounces => ⟨a, rfl, hannounces⟩
  refine Script.Rehearses.mapped (fun ending => ?_) (fun ending => ?_) hcaught
  · cases ending with
    | ok result =>
        constructor
        · intro hexits
          rcases hexits with ⟨_, hresult, hannounces⟩
          cases hresult
          exact ⟨result, rfl, hannounces⟩
        · intro hok
          rcases hok with ⟨_, hresult, hannounces⟩
          cases hresult
          exact ⟨result, rfl, hannounces⟩
    | error error =>
        apply iff_of_false
        · intro hexits
          cases hexits.choose_spec.1
        · intro hok
          cases hok.choose_spec.1
  · intro hexits
    cases ending with
    | ok result => exact ⟨result, rfl⟩
    | error error => cases hexits.choose_spec.1

end Endings

namespace ManagementCall

theorem rehearses (options : ConnectionOptions) (pulls rounds : Nat)
    (call : ManagementCall) :
    Script.Rehearses Observing
      (ExitsWith fun result => call.changed result = true)
      (ExitsWith fun _ => True) (call.mainIn options pulls rounds true)
      (call.mainIn options pulls rounds false) := by
  cases call with
  | boot device actionToken _ =>
      apply Script.rehearses_bind (uses_ofAmt _)
      exact fun _ =>
        rehearses_caught (boot_rehearses device actionToken fun _ => rfl)
  | redirection desired _ =>
      apply Script.rehearses_bind (uses_ofAmt _)
      exact fun _ => rehearses_caught (redirection_rehearses _ desired)
  | power state _ =>
      apply rehearses_caught
      apply Script.rehearses_bind (uses_ofAmt _)
      exact fun _ => power_rehearses state
  | info gatherSubset =>
      apply rehearses_caught
      apply Script.rehearses_bind (uses_ofAmt _)
      intro setup
      apply Script.rehearses_self
        (uses_observing (uses_through performRead_reads _))
      exact Script.returns_mono (Script.returns_trivial _)
        fun _ _ => Bool.false_ne_true
  | eventLog maxRecords severities =>
      simp only [mainIn, eventLogMain]
      split
      · apply Script.rehearses_returned
        intro hexits
        cases hexits.choose_spec.1
      · apply rehearses_caught
        apply Script.rehearses_bind (uses_ofAmt _)
        intro setup
        refine Script.rehearses_self
          (Script.uses_bind (readRecords_observes _ _ _) ?_) ?_
        · exact fun _ => trivial
        · exact Script.returns_mono (Script.returns_trivial _)
            fun _ _ => Bool.false_ne_true
  | logClear confirmDestructive _ =>
      apply rehearses_caught
      apply Script.rehearses_bind (uses_ofAmt _)
      exact fun _ => logClear_rehearses confirmDestructive

/-- The call goes on from `z` where check mode is at `y`: both are still
running, both have come to the same end, or check mode has reported a change
and the call does not exit without having made one. -/
def GoesOn (call : ManagementCall) :
    WsmanScript (MainEnd call.Result) -> WsmanScript (MainEnd call.Result) ->
      Prop
  | Script.returned (MainEnd.exitJson result), z =>
      if call.changed result then
        z.ended = false ∧ forall rest later,
          Script.After z rest (Script.returned (MainEnd.exitJson later)) ->
            call.changed later = true ∧
              exists exchange, exchange ∈ rest ∧ ¬ Observing exchange.1
      else z = Script.returned (MainEnd.exitJson result)
  | Script.returned ending, z => z = Script.returned ending
  | Script.raised e, z => z = Script.raised e
  | Script.call _ _, z => z.ended = false

theorem goesOn_of_rehearses {call : ManagementCall}
    {y z : WsmanScript (MainEnd call.Result)}
    (h : Script.Rehearses Observing
      (ExitsWith fun result => call.changed result = true)
      (ExitsWith fun _ => True) y z) : call.GoesOn y z := by
  cases h with
  | ended hended hsilent =>
      cases y with
      | returned ending =>
          cases ending with
          | exitJson result =>
              have hquiet : ¬ call.changed result = true :=
                fun hchanged => hsilent _ rfl ⟨result, rfl, hchanged⟩
              rw [GoesOn, if_neg hquiet]
          | failJson error => rfl
          | failMessage message => rfl
      | raised e => rfl
      | call o next => cases hended
  | announced hannounces hended hcommits =>
      rcases hannounces with ⟨result, hresult, hchanged⟩
      rw [hresult, GoesOn, if_pos hchanged]
      refine ⟨hended, fun rest later hafter => ?_⟩
      rcases hcommits rest _ hafter ⟨later, rfl, trivial⟩ with
        ⟨⟨_, hlater, hreports⟩, hloud⟩
      cases hlater
      exact ⟨hreports, hloud⟩
  | call _ _ => rfl

/-- Check mode changes nothing, and whatever it is answered, the call itself
can be where it is. -/
theorem check_mode_previews (options : ConnectionOptions)
    (pulls rounds : Nat) (call : ManagementCall) {log : Log}
    {y : WsmanScript (MainEnd call.Result)}
    (h : Script.After (call.mainIn options pulls rounds true) log y) :
    (forall exchange, exchange ∈ log -> Observing exchange.1) ∧
      exists z, Script.After (call.mainIn options pulls rounds false) log z ∧
        call.GoesOn y z := by
  rcases (rehearses options pulls rounds call).along h with
    ⟨hquiet, z, hz, hrest⟩
  exact ⟨hquiet, z, hz, goesOn_of_rehearses hrest⟩

/-- Before a call asks for anything that may change something, it has been
answered what check mode reports a change for. -/
theorem changes_are_previewed (options : ConnectionOptions)
    (pulls rounds : Nat) (call : ManagementCall) {log : Log}
    {y : WsmanScript (MainEnd call.Result)}
    (h : Script.After (call.mainIn options pulls rounds false) log y)
    (hloud : exists exchange, exchange ∈ log ∧ ¬ Observing exchange.1) :
    exists reads rest result, log = reads ++ rest ∧
      Script.After (call.mainIn options pulls rounds true) reads
        (Script.returned (MainEnd.exitJson result)) ∧
      call.changed result = true := by
  have hall := rehearses options pulls rounds call
  rcases hall.back h with ⟨z, hz, _⟩ | ⟨reads, rest, _, hlog, hreads, hends⟩
  · rcases hloud with ⟨exchange, hmem, hnot⟩
    exact absurd ((hall.along hz).1 exchange hmem) hnot
  · rcases hends with ⟨result, hresult, hchanged⟩
    rw [hresult] at hreads
    exact ⟨reads, rest, result, hlog, hreads, hchanged⟩

/-- The clearing of a log with five records. -/
def fullLog : ManagementCall := logClear true false

def fullLogRun (checkMode : Bool) :
    Log × WsmanScript (MainEnd AmtLogClear.ClearResult) :=
  Script.recorded (logEndpoint PostResult.readTimeout) 8 0
    (fullLog.mainIn { host := "host" } 1 1 checkMode)

theorem full_log_previewed :
    (forall exchange, exchange ∈ (fullLogRun true).1 ->
      Observing exchange.1) ∧
      exists z, Script.After (fullLog.mainIn { host := "host" } 1 1 false)
          (fullLogRun true).1 z ∧ fullLog.GoesOn (fullLogRun true).2 z :=
  check_mode_previews { host := "host" } 1 1 fullLog
    (Script.after_recorded _ _ _ _)

theorem full_log_change_previewed :
    exists reads rest result, (fullLogRun false).1 = reads ++ rest ∧
      Script.After (fullLog.mainIn { host := "host" } 1 1 true) reads
        (Script.returned (MainEnd.exitJson result)) ∧
      fullLog.changed result = true := by
  apply changes_are_previewed { host := "host" } 1 1 fullLog
    (Script.after_recorded (logEndpoint PostResult.readTimeout) 8 0 _)
  have hloud : (fullLogRun false).1.any (fun exchange =>
      match exchange.1 with
      | WsmanOp.post request => !observes request
      | _ => false) = true := by
    decide +kernel
  rcases List.any_eq_true.mp hloud with ⟨exchange, hmem, hobserves⟩
  refine ⟨exchange, hmem, ?_⟩
  rcases exchange with ⟨o, answer⟩
  cases o with
  | post request =>
      intro hquiet
      have hposted : observes request = true := hquiet
      have hnot : (!observes request) = true := hobserves
      rw [hposted] at hnot
      cases hnot
  | sleep _ => cases hobserves
  | connect _ _ => cases hobserves

end ManagementCall
end AmtModules
end IntelAmt
