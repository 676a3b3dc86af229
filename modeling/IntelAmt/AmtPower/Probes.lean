import IntelAmt.AmtBoot.Sequence
import IntelAmt.AmtPower.Module
import IntelAmt.Wsman.AcceptedChange

/-!
# The probes behind a power request

What `request_power_state` sends, how often it looks at the machine
afterwards, and what it reports of what it has seen.
-/

namespace IntelAmt
namespace AmtPower

open Foundation Wsman Models

/-!
## The request
-/

def powerUri : String :=
  "http://schemas.dmtf.org/wbem/wscim/1/cim-schema/2/CIM_PowerManagementService"

/-- The elements that name the managed system. -/
def managedSystem : List Element :=
  [{ tag := qualified addressingNs "Address", text := some addressingNs },
    { tag := qualified addressingNs "ReferenceParameters"
      children :=
        [{ tag := qualified wsmanNs "ResourceURI"
           text := some
            "http://schemas.dmtf.org/wbem/wscim/1/cim-schema/2/CIM_ComputerSystem" },
          { tag := qualified wsmanNs "SelectorSet"
            children := [selectorElement ("Name", "ManagedSystem")] }] }]

def powerRequest (action : PowerAction) : Request :=
  methodRequest "RequestPowerStateChange" powerUri []
    [{ tag := qualified powerUri "PowerState"
       text := some (toString action.code) },
      { tag := qualified powerUri "ManagedElement", children := managedSystem }]

section Request

variable {client : Client} {log : Log}

theorem getPowerState_reads : Script.Uses Reading (getPowerState client) :=
  Script.uses_bind (uses_get client _ _) fun _ => trivial

theorem requestPowerStateChange_changes (action : PowerAction) :
    Changes client (requestPowerStateChange client action)
      (powerRequest action) := by
  have hmethod : IsMethod
      (methodRequest "RequestPowerStateChange" powerUri [] []) := by
    decide +kernel
  have huri : resourceUri "CIM_PowerManagementService" =
      Except.ok powerUri := rfl
  exact invoke_changes huri rfl hmethod

theorem changes_once {alpha : Type} {x y : WsmanScript alpha}
    {request : Request} (hx : Changes client x request)
    (h : Script.After x log y) (hended : y.ended = true) :
    (mutations log).map Prod.fst = [request] := by
  rcases hx with ⟨hreads, operation, judge, hcall, hjudge⟩
  rw [hcall] at h
  rcases Script.after_call h with ⟨_, hy⟩ | ⟨result, rest, hlog, hrest⟩
  · rw [hy] at hended
    cases hended
  · rw [hlog, (after_settle hjudge hrest).1, mutations, List.filterMap_cons,
      mutation_post hreads]
    rfl

end Request

/-!
## The probes
-/

/-- The probe has seen the expected state. -/
def Reaches (expected : String) (outcome : Except AmtError PowerState) : Prop :=
  exists state, outcome = Except.ok state ∧ state.normalized = expected

def successes (performed : List (Except AmtError PowerState)) :
    List PowerState :=
  performed.filterMap Except.toOption

/-- The transcript of probes with these outcomes. -/
inductive Probed (client : Client) :
    Log -> List (Except AmtError PowerState) -> Prop where
  | nothing : Probed client [] []
  | state {log rest : Log} {performed : List (Except AmtError PowerState)}
      {state : PowerState}
      (hread : Script.After (getPowerState client) log
        (Script.returned state))
      (hrest : Probed client rest performed) :
      Probed client (⟨WsmanOp.sleep pollDelay, ()⟩ :: (log ++ rest))
        (Except.ok state :: performed)
  | failure {log rest : Log} {performed : List (Except AmtError PowerState)}
      {error : AmtError}
      (hread : Script.After (getPowerState client) log
        (Script.raised (Failure.amt error)))
      (hrest : Probed client rest performed) :
      Probed client (⟨WsmanOp.sleep pollDelay, ()⟩ :: (log ++ rest))
        (Except.error error :: performed)

/-- No more probes than there may be, and fewer only when the last one has
seen the expected state. -/
structure Bounded (expected : String) (left : Nat)
    (performed : List (Except AmtError PowerState)) : Prop where
  atMost : performed.length ≤ left
  goesOn : forall outcome, outcome ∈ performed.dropLast ->
    ¬ Reaches expected outcome
  stops : performed.length = left ∨ exists outcome,
    performed.getLast? = some outcome ∧ Reaches expected outcome

/-- One more probe ends in what is no failure of the collection. -/
structure Crashes (client : Client) (expected : String) (left : Nat)
    (performed : List (Except AmtError PowerState)) (rest : Log)
    (e : Failure) : Prop where
  early : performed.length < left
  goesOn : forall outcome, outcome ∈ performed -> ¬ Reaches expected outcome
  raised : exists log, rest = ⟨WsmanOp.sleep pollDelay, ()⟩ :: log ∧
    Script.After (getPowerState client) log (Script.raised e)
  foreign : NotAmt e

section Probes

variable {client : Client} {expected : String} {left : Nat}
variable {performed : List (Except AmtError PowerState)}
variable {outcome : Except AmtError PowerState}

theorem not_reaches_error (error : AmtError) :
    ¬ Reaches expected (Except.error error) := by
  rintro ⟨state, hstate, _⟩
  cases hstate

theorem reaches_ok_iff (state : PowerState) :
    Reaches expected (Except.ok state) ↔ state.normalized = expected := by
  constructor
  · rintro ⟨_, hstate, hreached⟩
    cases hstate
    exact hreached
  · intro hreached
    exact ⟨state, rfl, hreached⟩

theorem bounded_zero : Bounded expected 0 [] where
  atMost := Nat.le_refl 0
  goesOn _ hmem := by cases hmem
  stops := Or.inl rfl

theorem bounded_last (hreached : Reaches expected outcome) :
    Bounded expected (left + 1) [outcome] where
  atMost := Nat.succ_le_succ (Nat.zero_le left)
  goesOn _ hmem := by cases hmem
  stops := Or.inr ⟨outcome, rfl, hreached⟩

theorem Bounded.cons (h : Bounded expected left performed)
    (hmissed : ¬ Reaches expected outcome) :
    Bounded expected (left + 1) (outcome :: performed) where
  atMost := Nat.succ_le_succ h.atMost
  goesOn := by
    cases performed with
    | nil =>
        intro _ hmem
        cases hmem
    | cons second others =>
        intro other hmem
        rcases List.mem_cons.mp hmem with heq | hrest
        · rw [heq]
          exact hmissed
        · exact h.goesOn other hrest
  stops := by
    rcases h.stops with hlength | ⟨last, hlast, hreached⟩
    · left
      rw [List.length_cons, hlength]
    · right
      cases performed with
      | nil => cases hlast
      | cons second others =>
          exact ⟨last, by rw [List.getLast?_cons_cons, hlast], hreached⟩

theorem Crashes.cons {rest : Log} {e : Failure}
    (h : Crashes client expected left performed rest e)
    (hmissed : ¬ Reaches expected outcome) :
    Crashes client expected (left + 1) (outcome :: performed) rest e where
  early := Nat.succ_lt_succ h.early
  goesOn other hmem := by
    rcases List.mem_cons.mp hmem with heq | hrest
    · rw [heq]
      exact hmissed
    · exact h.goesOn other hrest
  raised := h.raised
  foreign := h.foreign

/-- How the probes end, and what they carry out. -/
inductive ProbesEnd (client : Client) (expected : String) (left : Nat)
    (observed : Option PowerState) (probes : List PowerState) :
    Log -> WsmanScript (Option PowerState × List PowerState) -> Prop where
  | stopped {log : Log} {performed : List (Except AmtError PowerState)}
      (hprobed : Probed client log performed)
      (hbounded : Bounded expected left performed) :
      ProbesEnd client expected left observed probes log
        (Script.returned
          ((successes performed).getLast?.or observed,
            probes ++ successes performed))
  | crashed {log rest : Log} {performed : List (Except AmtError PowerState)}
      {e : Failure} (hprobed : Probed client log performed)
      (hcrashes : Crashes client expected left performed rest e) :
      ProbesEnd client expected left observed probes (log ++ rest)
        (Script.raised e)

variable {observed : Option PowerState} {probes : List PowerState}
variable {log first : Log}
variable {y : WsmanScript (Option PowerState × List PowerState)}

theorem ProbesEnd.failure {error : AmtError}
    (hread : Script.After (getPowerState client) first
      (Script.raised (Failure.amt error)))
    (h : ProbesEnd client expected left observed probes log y) :
    ProbesEnd client expected (left + 1) observed probes
      (⟨WsmanOp.sleep pollDelay, ()⟩ :: (first ++ log)) y := by
  cases h with
  | @stopped _ performed hprobed hbounded =>
      exact @ProbesEnd.stopped client expected (left + 1) observed probes _
        (Except.error error :: performed) (Probed.failure hread hprobed)
        (hbounded.cons (not_reaches_error error))
  | crashed hprobed hcrashes =>
      rw [← List.append_assoc]
      exact ProbesEnd.crashed (Probed.failure hread hprobed)
        (hcrashes.cons (not_reaches_error error))

theorem ProbesEnd.state {state : PowerState}
    (hread : Script.After (getPowerState client) first
      (Script.returned state))
    (hmissed : state.normalized ≠ expected)
    (h : ProbesEnd client expected left (some state) (probes ++ [state]) log
      y) :
    ProbesEnd client expected (left + 1) observed probes
      (⟨WsmanOp.sleep pollDelay, ()⟩ :: (first ++ log)) y := by
  have hnot : ¬ Reaches expected (Except.ok state) :=
    mt (reaches_ok_iff state).mp hmissed
  cases h with
  | @stopped _ performed hprobed hbounded =>
      have hsuccesses : successes (Except.ok state :: performed) =
          state :: successes performed := rfl
      have hends := @ProbesEnd.stopped client expected (left + 1) observed
        probes _ _ (Probed.state hread hprobed) (hbounded.cons hnot)
      rw [hsuccesses, List.getLast?_cons, Option.some_or,
        List.append_cons] at hends
      rw [Option.or_some]
      exact hends
  | crashed hprobed hcrashes =>
      rw [← List.append_assoc]
      exact ProbesEnd.crashed (Probed.state hread hprobed) (hcrashes.cons hnot)

theorem after_caught_ended {alpha : Type} {x : WsmanScript alpha}
    {z : WsmanScript (ModuleEnd alpha)} (h : Script.After (caught x) log z)
    (hended : z.ended = true) :
    (exists y ending, Script.After x log y ∧ EndsAs y ending ∧
        z = Script.returned ending) ∨
      exists e, NotAmt e ∧ Script.After x log (Script.raised e) ∧
        z = Script.raised e := by
  cases z with
  | returned ending =>
      rcases after_caught h with ⟨y, hy, hends⟩
      exact Or.inl ⟨y, ending, hy, hends, rfl⟩
  | call o next => cases hended
  | raised e =>
      have hforeign : NotAmt e := Script.raises_after h (caught_raises x)
      rcases Script.after_handle_ended h rfl with
        ⟨_, _, himpossible⟩ | ⟨begun, rest, e', hlog, hraised, hrest⟩
      · cases himpossible
      · rcases Script.after_bind_ended hraised rfl with
          ⟨found, hx, hsame⟩ | ⟨_, _, _, _, _, hlast⟩
        · cases hsame
          cases e' with
          | amt error => cases (Script.after_returned hrest).2
          | other other =>
              rcases Script.after_raised hrest with ⟨hnil, hsame⟩
              cases hsame
              rw [hlog, hnil, List.append_nil]
              exact Or.inr ⟨_, hforeign, hx, rfl⟩
          | waiting =>
              rcases Script.after_raised hrest with ⟨hnil, hsame⟩
              cases hsame
              rw [hlog, hnil, List.append_nil]
              exact Or.inr ⟨_, hforeign, hx, rfl⟩
        · cases (Script.after_returned hlast).2

/-- The probes end as they may, whatever they meet. -/
theorem probeUpTo_ends
    (h : Script.After (probeUpTo client expected left observed probes) log y)
    (hended : y.ended = true) :
    ProbesEnd client expected left observed probes log y := by
  induction left generalizing observed probes log with
  | zero =>
      rcases Script.after_returned h with ⟨hlog, hy⟩
      have hends := @ProbesEnd.stopped client expected 0 observed probes _ _
        Probed.nothing bounded_zero
      rw [hlog, hy]
      simpa [successes] using hends
  | succ left ih =>
      rcases Script.after_call h with ⟨_, hy⟩ | ⟨_, asked, hlog, hasked⟩
      · rw [hy] at hended
        cases hended
      · rw [hlog]
        rcases Script.after_bind_ended (x := caught (getPowerState client))
            hasked hended with
          ⟨e, hraised, hy⟩ | ⟨first, rest, outcome, hsplit, hprobe, hrest⟩
        · rcases after_caught_ended hraised rfl with
            ⟨_, _, _, _, himpossible⟩ | ⟨_, hforeign, hread, hsame⟩
          · cases himpossible
          · cases hsame
            rw [hy]
            exact ProbesEnd.crashed Probed.nothing
              { early := Nat.succ_pos left
                goesOn := fun _ hmem => by cases hmem
                raised := ⟨asked, rfl, hread⟩
                foreign := hforeign }
        · rw [hsplit]
          rcases after_caught hprobe with ⟨z, hread, hends⟩
          cases hends with
          | raised error => exact ProbesEnd.failure hread (ih hrest)
          | returned state =>
              by_cases hreached : state.normalized = expected
              · simp only [hreached, if_true] at hrest
                rcases Script.after_returned hrest with ⟨hnil, hy⟩
                rw [hnil, hy]
                exact ProbesEnd.stopped (Probed.state hread Probed.nothing)
                  (bounded_last ((reaches_ok_iff state).mpr hreached))
              · simp only [hreached, if_false] at hrest
                exact ProbesEnd.state hread hreached (ih hrest)

end Probes

/-!
## The whole call
-/

/-- `request_power_state` of a client with this `poll_count`. -/
def requestPowerStateWith (client : Client) (count : Int)
    (action : PowerAction) : WsmanScript PowerReceipt := do
  let previous ← getPowerState client
  let _ ← requestPowerStateChange client action
  let (observed, probes) ←
    probeUpTo client action.expectedState (max 0 count).toNat none []
  pure
    { changed := true
      previous := previous
      desired := some action.expectedState
      observed := observed
      returnValue := some 0
      probes := probes }

theorem requestPowerState_eq (client : Client) (action : PowerAction) :
    requestPowerState client action =
      requestPowerStateWith client pollCount action := rfl

/-- The request was sent once, behind a state that was read, and it was
answered so. -/
structure Requested (client : Client) (action : PowerAction) (log : Log)
    (previous : PowerState) (y : WsmanScript Instance) : Prop where
  read : exists first rest, log = first ++ rest ∧ mutations first = [] ∧
    Script.After (getPowerState client) first (Script.returned previous) ∧
    Script.After (requestPowerStateChange client action) rest y
  once : (mutations log).map Prod.fst = [powerRequest action]

/-- The receipt of an accepted request behind these probes. -/
def receiptOf (action : PowerAction) (previous : PowerState)
    (performed : List (Except AmtError PowerState)) : PowerReceipt where
  changed := true
  previous := previous
  desired := some action.expectedState
  observed := (successes performed).getLast?
  returnValue := some 0
  probes := successes performed

/-- How a power request ends.  In all that is sent behind the request,
nothing changes the endpoint. -/
inductive PowerRun (client : Client) (count : Int) (action : PowerAction) :
    Log -> WsmanScript PowerReceipt -> Prop where
  | unread {log : Log} {e : Failure}
      (hread : Script.After (getPowerState client) log (Script.raised e))
      (hnone : mutations log = []) :
      PowerRun client count action log (Script.raised e)
  | refused {log : Log} {previous : PowerState} {e : Failure}
      (hrequested : Requested client action log previous (Script.raised e)) :
      PowerRun client count action log (Script.raised e)
  | observed {log rest : Log} {previous : PowerState} {output : Instance}
      {performed : List (Except AmtError PowerState)}
      (hrequested : Requested client action log previous
        (Script.returned output))
      (hprobed : Probed client rest performed)
      (hbounded : Bounded action.expectedState (max 0 count).toNat performed)
      (hquiet : mutations rest = []) :
      PowerRun client count action (log ++ rest)
        (Script.returned (receiptOf action previous performed))
  | crashed {log rest last : Log} {previous : PowerState} {output : Instance}
      {performed : List (Except AmtError PowerState)} {e : Failure}
      (hrequested : Requested client action log previous
        (Script.returned output))
      (hprobed : Probed client rest performed)
      (hcrashes : Crashes client action.expectedState (max 0 count).toNat
        performed last e)
      (hquiet : mutations (rest ++ last) = []) :
      PowerRun client count action (log ++ (rest ++ last)) (Script.raised e)

section Call

variable {client : Client} {count : Int} {action : PowerAction}

theorem probeUpTo_reads (expected : String) (left : Nat)
    (observed : Option PowerState) (probes : List PowerState) :
    Script.Uses Reading (probeUpTo client expected left observed probes) := by
  induction left generalizing observed probes with
  | zero => trivial
  | succ left ih =>
      constructor
      · trivial
      · intro _
        apply Script.uses_bind (x := caught (getPowerState client))
        · apply Script.uses_handle
          · exact Script.uses_bind getPowerState_reads fun _ => trivial
          · intro e
            cases e <;> trivial
        intro probe
        cases probe with
        | error _ => exact ih observed probes
        | ok state =>
            by_cases hreached : state.normalized = expected
            · simp only [hreached, if_true]
              trivial
            · simp only [hreached, if_false]
              exact ih (some state) (probes ++ [state])

theorem PowerRun.of_probes {log rest : Log} {previous : PowerState}
    {output : Instance}
    {y : WsmanScript (Option PowerState × List PowerState)}
    (hrequested : Requested client action log previous
      (Script.returned output))
    (hquiet : mutations rest = [])
    (h : ProbesEnd client action.expectedState (max 0 count).toNat none [] rest
      y) :
    PowerRun client count action (log ++ rest)
      (y >>= fun seen =>
        Script.returned
          { changed := true
            previous := previous
            desired := some action.expectedState
            observed := seen.1
            returnValue := some 0
            probes := seen.2 }) := by
  cases h with
  | @stopped _ performed hprobed hbounded =>
      rw [Script.returned_bind, Option.or_none, List.nil_append]
      exact PowerRun.observed hrequested hprobed hbounded hquiet
  | crashed hprobed hcrashes =>
      exact PowerRun.crashed hrequested hprobed hcrashes hquiet

/-- Whatever the endpoint answers, a power request is sent exactly once,
behind a state that was read; the probes stop at the first one that has seen
the expected state or when there are none left; and unless one of them ends in
what is no failure of the collection, the call returns with what they have
seen. -/
theorem requestPowerState_runs {log : Log} {y : WsmanScript PowerReceipt}
    (h : Script.After (requestPowerStateWith client count action) log y)
    (hended : y.ended = true) : PowerRun client count action log y := by
  rcases Script.after_bind_ended h hended with
    ⟨e, hraised, hy⟩ | ⟨first, behind, previous, hlog, hread, hbehind⟩
  · rw [hy]
    exact PowerRun.unread hraised
      (mutations_reading (Script.after_uses getPowerState_reads hraised))
  · have hfirst : mutations first = [] :=
      mutations_reading (Script.after_uses getPowerState_reads hread)
    have hrequested : forall {second : Log} {answer : WsmanScript Instance},
        Script.After (requestPowerStateChange client action) second answer ->
          answer.ended = true ->
            Requested client action (first ++ second) previous answer := by
      intro second answer hchange hanswered
      constructor
      · exact ⟨first, second, rfl, hfirst, hread, hchange⟩
      · rw [mutations_append, hfirst, List.nil_append]
        exact changes_once (requestPowerStateChange_changes action) hchange
          hanswered
    rw [hlog]
    rcases Script.after_bind_ended hbehind hended with
      ⟨e, hraised, hy⟩ | ⟨second, rest, output, hsplit, haccepted, hrest⟩
    · rw [hy]
      exact PowerRun.refused (hrequested hraised rfl)
    · rw [hsplit, ← List.append_assoc]
      have hquiet : mutations rest = [] := by
        refine mutations_reading (Script.after_uses ?_ hrest)
        exact Script.uses_bind (probeUpTo_reads _ _ _ _) fun _ => trivial
      rcases Script.after_bind_ended hrest hended with
        ⟨e, hraised, hy⟩ | ⟨probed, last, seen, hprobes, hseen, hlast⟩
      · rw [hy]
        exact PowerRun.of_probes (hrequested haccepted rfl) hquiet
          (probeUpTo_ends hraised rfl)
      · rcases Script.after_returned hlast with ⟨hnil, hy⟩
        rw [hnil, List.append_nil] at hprobes
        rw [hprobes] at hquiet ⊢
        rw [hy]
        exact PowerRun.of_probes (hrequested haccepted rfl) hquiet
          (probeUpTo_ends hseen rfl)

end Call

/-- A machine that is off and comes on; the first look at it is not
answered. -/
def slowEndpoint (position : Nat) : (o : WsmanOp) -> WsmanAnswer o
  | WsmanOp.post _ =>
      if position = 3 then PostResult.readTimeout
      else
        PostResult.response
          (AmtBoot.responseOf
            (AmtBoot.instanceOf "Output"
              [("PowerState", if position < 2 then "8" else "2"),
                ("ReturnValue", "0")]))
  | WsmanOp.sleep _ => ()
  | WsmanOp.connect _ _ => true

/-- Switching that machine on, with three probes at most. -/
def switchingOn : Log × WsmanScript PowerReceipt :=
  Script.recorded slowEndpoint 6 0
    (requestPowerStateWith ⟨"host:16993", 2⟩ 3 PowerAction.on)

theorem switchingOn_runs :
    switchingOn.2.result =
        some
          (receiptOf PowerAction.on ⟨"off", 8⟩
            [Except.error (readTimeoutError ⟨"host:16993", 2⟩ ""),
              Except.ok ⟨"on", 2⟩]) ∧
      PowerRun ⟨"host:16993", 2⟩ 3 PowerAction.on switchingOn.1
        switchingOn.2 := by
  have hresult : switchingOn.2.result =
      some
        (receiptOf PowerAction.on ⟨"off", 8⟩
          [Except.error (readTimeoutError ⟨"host:16993", 2⟩ ""),
            Except.ok ⟨"on", 2⟩]) := by
    decide +kernel
  constructor
  · exact hresult
  · apply requestPowerState_runs
    · exact Script.after_recorded slowEndpoint 6 0 _
    · rw [Script.eq_returned_of_result hresult]
      rfl

end AmtPower
end IntelAmt
