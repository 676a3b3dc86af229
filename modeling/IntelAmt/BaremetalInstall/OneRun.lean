import IntelAmt.BaremetalInstall.Runs

/-!
# One run of the role

What holds between the tasks of a run: which of the arming and the transition
is outstanding, and what the fact and the state file say of it.
-/

namespace IntelAmt
namespace BaremetalInstall

open Foundation MediaSession

/-!
## The log, event by event
-/

@[simp] theorem unrecorded_armed (log : List Event) :
    unrecorded (log ++ [Event.armed]) = true := by
  simp [unrecorded]

@[simp] theorem unrecorded_saved (log : List Event) (state : RunState) :
    unrecorded (log ++ [Event.saved state]) =
      (unrecorded log && !state.bootArmed) := by
  simp [unrecorded]

@[simp] theorem unrecorded_started (log : List Event) (forceResume : Bool) :
    unrecorded (log ++ [Event.started forceResume]) = unrecorded log := by
  simp [unrecorded]

@[simp] theorem unrecorded_powered (log : List Event) :
    unrecorded (log ++ [Event.powered]) = unrecorded log := by
  simp [unrecorded]

@[simp] theorem unrecorded_attached (log : List Event) (sessionState : Json) :
    unrecorded (log ++ [Event.attached sessionState]) = unrecorded log := by
  simp [unrecorded]

@[simp] theorem attachedAs_attached (log : List Event)
    (sessionState : Json) :
    attachedAs (log ++ [Event.attached sessionState]) = some sessionState := by
  simp [attachedAs]

@[simp] theorem attachedAs_saved (log : List Event) (state : RunState) :
    attachedAs (log ++ [Event.saved state]) = attachedAs log := by
  simp [attachedAs]

@[simp] theorem attachedAs_armed (log : List Event) :
    attachedAs (log ++ [Event.armed]) = attachedAs log := by
  simp [attachedAs]

/-!
## Assertions

With `settled` the run begins when every arming has been recorded.
-/

def World.poweredOut (w : World) : Bool := outstanding Event.isPowered w.log

def World.armedOut (w : World) : Bool := outstanding Event.isArmed w.log

/-- The state file tells of an arming that is not confirmed. -/
def World.Warns (w : World) : Prop :=
  exists state, w.disk = some state ∧ state.uncertain = true

/-- What holds at every moment, wherever a run is cut off. -/
structure Kept (settled : Bool) (w : World) : Prop where
  powered : w.poweredOut = true -> w.Warns
  armed : settled = true -> w.armedOut = true ->
    w.Warns ∨ unrecorded w.log = true

/-- The run state is loaded. -/
structure Running (settled : Bool) (w : World) : Prop where
  kept : Kept settled w
  state : exists state, w.runState = some state ∧
    (w.poweredOut = true -> state.bootArmed = true) ∧
    (settled = true -> w.armedOut = true ->
      state.bootArmed = true ∨ unrecorded w.log = true)

/-- Nothing is sent yet, and nothing sent before is outstanding. -/
structure Unsent (settled : Bool) (w : World) : Prop where
  powered : w.poweredOut = false
  fresh : inThisRun Event.isPowered w.log = false
  armed : settled = true -> w.armedOut = false
  state : exists state, w.runState = some state ∧
    state.resetConfirmed = false

/-- Nothing is sent yet, and the attach of this run has returned as `A`
says. -/
structure Served (A : Option Json -> Prop) (settled : Bool) (w : World) :
    Prop where
  unsent : Unsent settled w
  attached : A (attachedAs w.log)

/-- The arming is sent, and the transition is not. -/
structure Armed (A : Option Json -> Prop) (w : World) : Prop where
  powered : w.poweredOut = false
  fresh : inThisRun Event.isPowered w.log = false
  armed : unrecorded w.log = true
  attached : A (attachedAs w.log)
  state : exists state, w.runState = some state ∧
    state.resetConfirmed = false

/-- The arming is in the fact too. -/
structure Noted (A : Option Json -> Prop) (w : World) : Prop where
  armed : Armed A w
  state : exists state, w.runState = some state ∧ state.uncertain = true

/-- The arming is in the state file. -/
structure Ready (A : Option Json -> Prop) (w : World) : Prop where
  powered : w.poweredOut = false
  fresh : inThisRun Event.isPowered w.log = false
  warns : w.Warns
  attached : A (attachedAs w.log)
  state : exists state, w.runState = some state ∧ state.uncertain = true

/-- Where no transition is outstanding, what is armed has only to be
unrecorded. -/
theorem running_of_unpowered {settled : Bool} {w : World}
    (hstate : exists state, w.runState = some state)
    (hpowered : w.poweredOut = false)
    (harmed : settled = true -> w.armedOut = true ->
      unrecorded w.log = true) :
    Running settled w := by
  rcases hstate with ⟨state, hstate⟩
  have hnever : w.poweredOut ≠ true := Bool.eq_false_iff.mp hpowered
  constructor
  · constructor
    · exact fun hout => absurd hout hnever
    · exact fun hsettled hout => Or.inr (harmed hsettled hout)
  · refine ⟨state, hstate, ?_, ?_⟩
    · exact fun hout => absurd hout hnever
    · exact fun hsettled hout => Or.inr (harmed hsettled hout)

theorem Unsent.running {settled : Bool} {w : World} (h : Unsent settled w) :
    Running settled w := by
  rcases h.state with ⟨state, hstate, _⟩
  apply running_of_unpowered ⟨state, hstate⟩ h.powered
  intro hsettled hout
  rw [h.armed hsettled] at hout
  cases hout

section Attached

variable {A : Option Json -> Prop} {settled : Bool}

theorem Served.running {w : World} (h : Served A settled w) :
    Running settled w :=
  h.unsent.running

theorem Armed.running {w : World} (h : Armed A w) : Running settled w := by
  rcases h.state with ⟨state, hstate, _⟩
  exact running_of_unpowered ⟨state, hstate⟩ h.powered fun _ _ => h.armed

theorem Noted.running {w : World} (h : Noted A w) : Running settled w :=
  h.armed.running

theorem RunState.uncertain_iff (state : RunState) :
    state.uncertain = true ↔
      state.bootArmed = true ∧ state.resetConfirmed = false := by
  simp [RunState.uncertain]

theorem Ready.running {w : World} (h : Ready A w) : Running settled w := by
  rcases h.state with ⟨state, hstate, huncertain⟩
  have harmed := ((RunState.uncertain_iff state).mp huncertain).1
  constructor
  · exact ⟨fun _ => h.warns, fun _ _ => Or.inl h.warns⟩
  · exact ⟨state, hstate, fun _ => harmed, fun _ _ => Or.inl harmed⟩

end Attached

/-!
## The rules of the tasks
-/

/-- When the two calls that cannot be taken back may be sent. -/
structure Guard (A : Option Json -> Prop) (settled : Bool) (w : World)
    (o : RoleOp) : Prop where
  kept : Kept settled w
  boot : forall device token, o = RoleOp.amtBoot device token ->
    (settled = true -> w.armedOut = false) ∧ A (attachedAs w.log)
  power : forall action, o = RoleOp.amtPower action ->
    w.poweredOut = false ∧ inThisRun Event.isPowered w.log = false ∧
      A (attachedAs w.log)

def sends : RoleOp -> Bool
  | RoleOp.amtBoot _ _ => true
  | RoleOp.amtPower _ => true
  | _ => false

section Rules

variable {media : AmtMedia.Params -> TaskResult AmtMedia.ModuleResult -> Prop}
variable {A : Option Json -> Prop} {settled : Bool}
variable {alpha : Type} {P E : World -> Prop}

theorem steady (P : World -> Prop) : (controller media).Steady P :=
  fun _ _ h => h.elim

theorem guard_of_kept {w : World} (h : Kept settled w) {o : RoleOp}
    (ho : sends o = false) : Guard A settled w o := by
  constructor
  · exact h
  · intro device token hboot
    rw [hboot] at ho
    cases ho
  · intro action hpower
    rw [hpower] at ho
    cases ho

/-- A triple of the role: what raises in it leaves `E`. -/
abbrev Does
    (media : AmtMedia.Params -> TaskResult AmtMedia.ModuleResult -> Prop)
    (A : Option Json -> Prop) (settled : Bool) (E P : World -> Prop)
    {alpha : Type} (x : RoleScript alpha) (Q : alpha -> World -> Prop) :
    Prop :=
  (controller media).Triple (Guard A settled) P x Q fun _ => E

theorem does_pure {Q : alpha -> World -> Prop} {a : alpha}
    (h : forall w, P w -> Q a w) :
    Does media A settled E P (Script.returned a : RoleScript alpha) Q :=
  Machine.triple_returned (steady P) h

theorem does_raise {Q : alpha -> World -> Prop} {result : FailedResult}
    (h : forall w, P w -> E w) :
    Does media A settled E P (Script.raised result : RoleScript alpha) Q :=
  Machine.triple_raised (steady P) h

theorem does_ofTask {Q : alpha -> World -> Prop}
    (result : TaskResult alpha) (hfailed : forall w, P w -> E w)
    (hok : forall a, result = TaskResult.ok a -> forall w, P w -> Q a w) :
    Does media A settled E P (ofTask result) Q := by
  cases result with
  | ok a => exact does_pure (hok a rfl)
  | failed result => exact does_raise hfailed

theorem does_silent {o : RoleOp} {next : RoleAnswer o -> RoleScript alpha}
    {Q : alpha -> World -> Prop} (ho : silent o = true)
    (hkept : forall w, P w -> Kept settled w)
    (hnext : forall a, Does media A settled E P (next a) Q) :
    Does media A settled E P (Script.call o next) Q := by
  have hsends : sends o = false := by
    cases o <;> first | rfl | cases ho
  apply Machine.triple_call (R := fun _ => P) (steady P)
    (fun w hw => guard_of_kept (hkept w hw) hsends) _ hnext
  intro w a w' hw hperform
  cases hperform <;> first | exact hw | cases ho

theorem does_task (name : String) (hkept : forall w, P w -> Kept settled w)
    (hE : forall w, P w -> E w) :
    Does media A settled E P (task name) fun _ => P :=
  does_silent rfl hkept fun result =>
    does_ofTask result hE fun _ _ _ h => h

theorem does_assert (name : String) (condition : Bool) (failMsg : String)
    (hkept : forall w, P w -> Kept settled w) (hE : forall w, P w -> E w) :
    Does media A settled E P (assertThat name condition failMsg)
      fun _ w => P w ∧ condition = true := by
  apply Machine.triple_bind (does_task name hkept hE)
  intro _
  cases condition with
  | true => exact does_pure fun _ h => ⟨h, rfl⟩
  | false => exact does_raise hE

theorem does_theRunState (hkept : forall w, P w -> Kept settled w)
    (hE : forall w, P w -> E w) :
    Does media A settled E P theRunState
      fun state w => P w ∧ w.runState = some state := by
  apply Machine.triple_call (o := RoleOp.runState)
    (R := fun found w => P w ∧ w.runState = found) (steady P)
    (fun w hw => guard_of_kept (hkept w hw) rfl)
  · intro w found w' hw hperform
    cases hperform with
    | quiet _ hsilent => cases hsilent
    | reads => exact ⟨hw, rfl⟩
  · intro found
    cases found with
    | none => exact does_raise fun w h => hE w h.1
    | some state => exact does_pure fun _ h => h

theorem does_setRunState {R : World -> Prop} (name : String)
    (state : RunState) (hkept : forall w, P w -> Kept settled w)
    (hE : forall w, P w -> E w)
    (hset : forall w, P w -> R { w with runState := some state }) :
    Does media A settled E P (setRunState name state) fun _ => R := by
  apply Machine.triple_call (o := RoleOp.setRunState name state)
    (R := fun result w =>
      match result with
      | TaskResult.ok _ => R w
      | TaskResult.failed _ => P w)
    (steady P) (fun w hw => guard_of_kept (hkept w hw) rfl)
  · intro w result w' hw hperform
    cases hperform with
    | quiet _ hsilent => cases hsilent
    | sets => exact hset w hw
    | setFails _ => exact hw
  · intro result
    cases result with
    | ok _ => exact does_pure fun _ h => h
    | failed _ => exact does_raise hE

theorem does_combine {R : World -> Prop} (name : String)
    (change : RunState -> RunState)
    (hkept : forall w, P w -> Kept settled w) (hE : forall w, P w -> E w)
    (hset : forall w state, P w -> w.runState = some state ->
      R { w with runState := some (change state) }) :
    Does media A settled E P (combineRunState name change) fun _ => R := by
  apply Machine.triple_bind (does_theRunState hkept hE)
  intro state
  apply does_setRunState name (change state)
  · exact fun w h => hkept w h.1
  · exact fun w h => hE w h.1
  · exact fun w h => hset w state h.1 h.2

theorem does_saveState {R : World -> Prop}
    (hkept : forall w, P w -> Kept settled w) (hE : forall w, P w -> E w)
    (hsave : forall w state, P w -> w.runState = some state ->
      R ({ w with disk := some state }.happens (Event.saved state))) :
    Does media A settled E P saveState fun _ => R := by
  apply Machine.triple_bind (does_theRunState hkept hE)
  intro state
  apply Machine.triple_call (o := RoleOp.saveState state)
    (R := fun result w =>
      match result with
      | TaskResult.ok _ => R w
      | TaskResult.failed _ => P w)
    (steady _) (fun w hw => guard_of_kept (hkept w hw.1) rfl)
  · intro w result w' hw hperform
    cases hperform with
    | quiet _ hsilent => cases hsilent
    | saves => exact hsave w state hw.1 hw.2
    | saveFails _ => exact hw.1
  · intro result
    cases result with
    | ok _ => exact does_pure fun _ h => h
    | failed _ => exact does_raise hE

end Rules
end BaremetalInstall
end IntelAmt
