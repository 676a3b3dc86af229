import IntelAmt.BaremetalInstall.OneRun

/-!
# The tasks of a run

What each task file keeps, and what it leaves to the next one.
-/

namespace IntelAmt
namespace BaremetalInstall

open Foundation MediaSession

/-!
## What a save, a change of the fact and a call leave
-/

/-- The world after a save. -/
abbrev World.save (w : World) (state : RunState) : World :=
  { w with disk := some state }.happens (Event.saved state)

/-- The world after a change of the fact. -/
abbrev World.note (w : World) (state : RunState) : World :=
  { w with runState := some state }

theorem poweredOut_save (w : World) (state : RunState) :
    (w.save state).poweredOut = (w.poweredOut && !state.resetConfirmed) := by
  simp [World.poweredOut, World.happens, Event.isPowered, Event.releases]

theorem armedOut_save (w : World) (state : RunState) :
    (w.save state).armedOut = (w.armedOut && !state.resetConfirmed) := by
  simp [World.armedOut, World.happens, Event.isArmed, Event.releases]

theorem inThisRun_save (w : World) (state : RunState) :
    inThisRun Event.isPowered (w.save state).log =
      inThisRun Event.isPowered w.log := by
  simp [World.happens, Event.isPowered, Event.isStarted]

theorem unrecorded_save (w : World) (state : RunState) :
    unrecorded (w.save state).log =
      (unrecorded w.log && !state.bootArmed) := by
  simp [World.happens]

theorem attachedAs_save (w : World) (state : RunState) :
    attachedAs (w.save state).log = attachedAs w.log := by
  simp [World.happens]

theorem warns_save {w : World} {state : RunState}
    (harmed : state.bootArmed = true)
    (hconfirmed : state.resetConfirmed = false) : (w.save state).Warns :=
  ⟨state, rfl, (RunState.uncertain_iff state).mpr ⟨harmed, hconfirmed⟩⟩

section Changes

variable {A : Option Json -> Prop} {settled : Bool} {w : World}

theorem Running.save (h : Running settled w) {state : RunState}
    (hstate : w.runState = some state) : Running settled (w.save state) := by
  rcases h.state with ⟨found, hfound, hpowered, harmed⟩
  have hsame : found = state := Option.some.inj (hfound.symm.trans hstate)
  rw [hsame] at hpowered harmed
  have harmedOut : settled = true -> (w.save state).armedOut = true ->
      state.bootArmed = true ∨ unrecorded (w.save state).log = true := by
    intro hsettled hout
    rw [armedOut_save, Bool.and_eq_true] at hout
    rw [unrecorded_save]
    cases hboot : state.bootArmed with
    | true => exact Or.inl rfl
    | false =>
        rcases harmed hsettled hout.1 with h | h
        · rw [hboot] at h
          cases h
        · exact Or.inr (by simp [h])
  constructor
  · constructor
    · intro hout
      rw [poweredOut_save, Bool.and_eq_true, Bool.not_eq_true'] at hout
      exact warns_save (hpowered hout.1) hout.2
    · intro hsettled hout
      rcases harmedOut hsettled hout with hboot | hunrecorded
      · rw [armedOut_save, Bool.and_eq_true, Bool.not_eq_true'] at hout
        exact Or.inl (warns_save hboot hout.2)
      · exact Or.inr hunrecorded
  · refine ⟨state, hstate, ?_, harmedOut⟩
    intro hout
    rw [poweredOut_save, Bool.and_eq_true] at hout
    exact hpowered hout.1

theorem Running.note (h : Running settled w) {state changed : RunState}
    (hstate : w.runState = some state)
    (hchanged : changed.bootArmed = state.bootArmed) :
    Running settled (w.note changed) := by
  rcases h.state with ⟨found, hfound, hpowered, harmed⟩
  have hsame : found = state := Option.some.inj (hfound.symm.trans hstate)
  rw [hsame, ← hchanged] at hpowered harmed
  constructor
  · exact ⟨h.kept.powered, h.kept.armed⟩
  · exact ⟨changed, rfl, hpowered, harmed⟩

theorem Unsent.save (h : Unsent settled w) (state : RunState) :
    Unsent settled (w.save state) := by
  rcases h.state with ⟨found, hfound, hconfirmed⟩
  constructor
  · rw [poweredOut_save, h.powered]
    rfl
  · rw [inThisRun_save]
    exact h.fresh
  · intro hsettled
    rw [armedOut_save, h.armed hsettled]
    rfl
  · exact ⟨found, hfound, hconfirmed⟩

theorem Unsent.attach (h : Unsent settled w) (sessionState : Json) :
    Unsent settled (w.happens (Event.attached sessionState)) := by
  constructor
  · have hpowered := h.powered
    simp_all [World.poweredOut, World.happens, Event.isPowered]
  · simp [World.happens, Event.isPowered, h.fresh]
  · intro hsettled
    have harmed := h.armed hsettled
    simp_all [World.armedOut, World.happens, Event.isArmed]
  · exact h.state

theorem Unsent.confirmed (h : Unsent settled w) {state : RunState}
    (hstate : w.runState = some state) : state.resetConfirmed = false := by
  rcases h.state with ⟨found, hfound, hconfirmed⟩
  rw [hstate] at hfound
  cases hfound
  exact hconfirmed

theorem Unsent.note (h : Unsent settled w) {state changed : RunState}
    (hstate : w.runState = some state)
    (hchanged : changed.resetConfirmed = state.resetConfirmed) :
    Unsent settled (w.note changed) :=
  ⟨h.powered, h.fresh, h.armed, changed, rfl,
    hchanged.trans (h.confirmed hstate)⟩

theorem Served.save (h : Served A settled w) (state : RunState) :
    Served A settled (w.save state) := by
  constructor
  · exact h.unsent.save state
  · rw [attachedAs_save]
    exact h.attached

theorem Served.note (h : Served A settled w) {state changed : RunState}
    (hstate : w.runState = some state)
    (hchanged : changed.resetConfirmed = state.resetConfirmed) :
    Served A settled (w.note changed) :=
  ⟨h.unsent.note hstate hchanged, h.attached⟩

theorem Served.arm (h : Served A settled w) :
    Armed A (w.happens Event.armed) := by
  constructor
  · have hpowered := h.unsent.powered
    simp_all [World.poweredOut, World.happens, Event.isPowered]
  · simp [World.happens, Event.isPowered, h.unsent.fresh]
  · simp [World.happens]
  · simpa [World.happens] using h.attached
  · exact h.unsent.state

theorem Armed.note (h : Armed A w) {state changed : RunState}
    (hstate : w.runState = some state) (harmed : changed.bootArmed = true)
    (hchanged : changed.resetConfirmed = state.resetConfirmed) :
    Noted A (w.note changed) := by
  rcases h.state with ⟨found, hfound, hconfirmed⟩
  have hsame : found = state := Option.some.inj (hfound.symm.trans hstate)
  rw [hsame, ← hchanged] at hconfirmed
  constructor
  · exact ⟨h.powered, h.fresh, h.armed, h.attached, changed, rfl, hconfirmed⟩
  · exact ⟨changed, rfl,
      (RunState.uncertain_iff changed).mpr ⟨harmed, hconfirmed⟩⟩

theorem Noted.save (h : Noted A w) {state : RunState}
    (hstate : w.runState = some state) : Ready A (w.save state) := by
  rcases h.state with ⟨found, hfound, huncertain⟩
  have hsame : found = state := Option.some.inj (hfound.symm.trans hstate)
  rw [hsame] at huncertain
  constructor
  · rw [poweredOut_save, h.armed.powered]
    rfl
  · rw [inThisRun_save]
    exact h.armed.fresh
  · exact ⟨state, rfl, huncertain⟩
  · rw [attachedAs_save]
    exact h.armed.attached
  · exact ⟨state, hstate, huncertain⟩

theorem Ready.power (h : Ready A w) :
    Running settled (w.happens Event.powered) := by
  rcases h.state with ⟨state, hstate, huncertain⟩
  have harmed := ((RunState.uncertain_iff state).mp huncertain).1
  constructor
  · exact ⟨fun _ => h.warns, fun _ _ => Or.inl h.warns⟩
  · exact ⟨state, hstate, fun _ => harmed, fun _ _ => Or.inl harmed⟩

end Changes
/-!
## Tasks that neither send nor change anything
-/

/-- What `silent` allows. -/
abbrev Quiet {alpha : Type} (x : RoleScript alpha) : Prop :=
  Script.Uses (fun o => silent o = true) x

theorem quiet_ofTask {alpha : Type} (result : TaskResult alpha) :
    Quiet (ofTask result) := by
  cases result with
  | ok _ => trivial
  | failed _ => trivial

theorem quiet_task (name : String) : Quiet (task name) :=
  ⟨rfl, fun result => quiet_ofTask result⟩

theorem quiet_assert (name : String) (condition : Bool) (failMsg : String) :
    Quiet (assertThat name condition failMsg) := by
  apply Script.uses_bind (quiet_task name)
  intro _
  cases condition with
  | true => trivial
  | false => trivial

theorem quiet_ite {alpha : Type} (condition : Bool)
    {x : RoleScript Unit} {f : Unit -> RoleScript alpha} (hx : Quiet x)
    (hf : forall u, Quiet (f u)) :
    Quiet (if condition = true then x >>= f else f ()) := by
  cases condition with
  | true => exact Script.uses_bind hx hf
  | false => exact hf ()

theorem quiet_validate (vars : Vars) : Quiet (validate vars) := by
  apply Script.uses_bind (quiet_assert _ _ _)
  intro _
  apply Script.uses_bind (quiet_assert _ _ _)
  intro _
  apply Script.uses_bind (quiet_assert _ _ _)
  intro _
  apply Script.uses_bind (quiet_assert _ _ _)
  intro _
  apply quiet_ite vars.waitForHandoff (quiet_assert _ _ _)
  intro _
  cases vars.bootProvider == "ider_cdrom" with
  | true => exact quiet_assert _ _ _
  | false => trivial

theorem quiet_ask {o : RoleOp} (ho : silent o = true) :
    Quiet (Script.ask o) :=
  Script.uses_ask ho

theorem quiet_probe (vars : Vars) : Quiet (probe vars) := by
  apply Script.uses_bind (@quiet_ask RoleOp.amtInfo rfl)
  intro result
  apply Script.uses_bind (quiet_ofTask result)
  intro found
  apply Script.uses_bind (quiet_assert _ _ _)
  intro _
  apply quiet_ite (vars.bootProvider == "pxe") (quiet_assert _ _ _)
  intro _
  apply quiet_ite (vars.bootProvider == "ider_cdrom") (quiet_assert _ _ _)
  exact fun _ => trivial

/-!
## What is let through
-/

/-- The variables that the role goes on with. -/
structure Accepted (vars : Vars) : Prop where
  oneHost : (vars.playHosts.length == 1) = true
  confirmed : vars.confirmDestructive = true
  provider : supportedProviders.contains vars.bootProvider = true
  connection : (vars.host ≠ "" && truthy vars.password &&
    ((vars.useTls && truthy vars.tlsFingerprint) ||
      (!vars.useTls && vars.allowInsecureTransport))) = true
  handoff : vars.waitForHandoff = true -> truthy vars.handoffHost = true
  media : (vars.bootProvider == "ider_cdrom") = true ->
    (vars.isoPath.isSome || vars.answerImagePath.isSome) = true

theorem returns_assert (name : String) (condition : Bool) (failMsg : String) :
    Script.Returns (fun _ => condition = true)
      (assertThat name condition failMsg) := by
  apply Script.returns_bind (Script.returns_trivial _)
  intro _ _
  cases condition with
  | true => exact rfl
  | false => trivial

theorem returns_ite {alpha : Type} {Q : alpha -> Prop} {condition : Bool}
    {outcome : Prop} {x : RoleScript Unit} {f : Unit -> RoleScript alpha}
    (hx : condition = true -> Script.Returns (fun _ => outcome) x)
    (hf : (condition = true -> outcome) ->
      forall u, Script.Returns Q (f u)) :
    Script.Returns Q (if condition = true then x >>= f else f ()) := by
  cases condition with
  | true =>
      rw [if_pos rfl]
      exact Script.returns_bind (hx rfl) fun u h => hf (fun _ => h) u
  | false => exact hf (fun h => nomatch h) ()

theorem returns_validate (vars : Vars) :
    Script.Returns (fun _ => Accepted vars) (validate vars) := by
  apply Script.returns_bind (returns_assert _ _ _)
  intro _ honeHost
  apply Script.returns_bind (returns_assert _ _ _)
  intro _ hconfirmed
  apply Script.returns_bind (returns_assert _ _ _)
  intro _ hprovider
  apply Script.returns_bind (returns_assert _ _ _)
  intro _ hconnection
  apply returns_ite fun _ => returns_assert _ _ _
  intro hhandoff _
  cases hider : vars.bootProvider == "ider_cdrom" with
  | true =>
      exact Script.returns_mono (returns_assert _ _ _) fun _ hmedia =>
        ⟨honeHost, hconfirmed, hprovider, hconnection, hhandoff,
          fun _ => hmedia⟩
  | false =>
      exact ⟨honeHost, hconfirmed, hprovider, hconnection, hhandoff,
        fun h => by rw [hider] at h; cases h⟩

theorem quiet_failWith (name msg : String) : Quiet (failWith name msg) :=
  Script.uses_bind (quiet_task name) fun _ => trivial

section Tasks

variable {media : AmtMedia.Params -> TaskResult AmtMedia.ModuleResult -> Prop}
variable {A : Option Json -> Prop} {settled : Bool} {vars : Vars}
variable {alpha beta : Type} {P E : World -> Prop}

theorem silent_sends {o : RoleOp} (ho : silent o = true) :
    sends o = false := by
  cases o <;> first | rfl | cases ho

theorem silent_keeps {o : RoleOp} {a : RoleAnswer o} {w w' : World}
    (ho : silent o = true) (hperform : Perform media w o a w') : w' = w := by
  cases hperform <;> first | rfl | cases ho

theorem does_quiet {x : RoleScript alpha} (hx : Quiet x)
    (hkept : forall w, P w -> Kept settled w) (hE : forall w, P w -> E w) :
    Does media A settled E P x fun _ => P := by
  intro w hw
  have hsafe := Machine.triple_of_uses (G := Guard A settled)
    (M := controller media) hx (steady P)
    (fun w o h ho => guard_of_kept (hkept w h) (silent_sends ho))
    (fun w o a w' ho hperform => silent_keeps ho hperform) w hw
  exact Machine.safe_mono (fun _ _ h => h) (fun _ _ h => h)
    (fun _ w h => hE w h) hsafe

theorem does_call {o : RoleOp} {f : RoleAnswer o -> RoleScript alpha}
    {R : RoleAnswer o -> World -> Prop} {Q : alpha -> World -> Prop}
    (hguard : forall w, P w -> Guard A settled w o)
    (hperform : forall w a w', P w -> Perform media w o a w' -> R a w')
    (hnext : forall a, Does media A settled E (R a) (f a) Q) :
    Does media A settled E P (Script.ask o >>= f) Q :=
  Machine.triple_call (steady P) hguard hperform hnext

theorem does_weaken {x : RoleScript alpha} {Q R : alpha -> World -> Prop}
    (hx : Does media A settled E P x Q)
    (h : forall a w, Q a w -> R a w) : Does media A settled E P x R :=
  fun w hw => Machine.safe_mono (fun _ _ h => h) h (fun _ _ h => h) (hx w hw)

/-!
## `state.yml`
-/

/-- A run has started; what was issued before is outstanding still, unless
the operator has acknowledged it. -/
structure Started (forceResume settled : Bool) (w : World) : Prop where
  kept : Kept settled w
  released : forceResume = true ->
    w.poweredOut = false ∧ w.armedOut = false
  fresh : inThisRun Event.isPowered w.log = false
  recorded : settled = true -> unrecorded w.log = false

/-- Where a run begins. -/
structure Begins (settled : Bool) (w : World) : Prop where
  kept : Kept settled w
  recorded : settled = true -> unrecorded w.log = false

theorem begins_start (disk : Option RunState) :
    Begins settled (World.start disk) := by
  constructor
  · constructor
    · exact fun hout => nomatch hout
    · exact fun _ hout => nomatch hout
  · exact fun _ => rfl

theorem Begins.start {w : World} (h : Begins settled w)
    (forceResume : Bool) :
    Started forceResume settled
      ({ w with runState := none }.happens (Event.started forceResume)) := by
  have hpowered := h.kept.powered
  have harmed := h.kept.armed
  have hrecorded := h.recorded
  constructor
  · constructor
    · intro hout
      simp [World.poweredOut, World.happens, Event.isPowered] at hout
      exact hpowered hout.1
    · intro hsettled hout
      simp [World.armedOut, World.happens, Event.isArmed] at hout
      rcases harmed hsettled hout.1 with hwarns | hunrecorded
      · exact Or.inl hwarns
      · exact Or.inr (by simpa [World.happens] using hunrecorded)
  · intro hforce
    simp [World.poweredOut, World.armedOut, World.happens, Event.isPowered,
      Event.isArmed, Event.releases, hforce]
  · simp [World.happens, Event.isPowered, Event.isStarted]
  · intro hsettled
    simpa [World.happens] using hrecorded hsettled

/-- What is outstanding can be told from this run state. -/
structure Tells (settled : Bool) (w : World) (state : RunState) : Prop where
  powered : w.poweredOut = true -> state.uncertain = true
  armed : settled = true -> w.armedOut = true -> state.uncertain = true

/-- The run state is loaded, and reconciled with a run that has completed. -/
structure Loaded (forceResume settled : Bool) (w : World) : Prop where
  started : Started forceResume settled w
  state : exists state, w.runState = some state ∧
    state.resetConfirmed = false ∧ Tells settled w state

theorem Started.tells_disk {forceResume : Bool} {w : World} {state : RunState}
    (h : Started forceResume settled w) (hdisk : w.disk = some state) :
    Tells settled w state := by
  have hwarns : w.Warns -> state.uncertain = true := by
    intro hwarns
    rcases hwarns with ⟨found, hfound, huncertain⟩
    rw [hdisk] at hfound
    cases hfound
    exact huncertain
  constructor
  · exact fun hout => hwarns (h.kept.powered hout)
  · intro hsettled hout
    rcases h.kept.armed hsettled hout with hdone | hunrecorded
    · exact hwarns hdone
    · rw [h.recorded hsettled] at hunrecorded
      cases hunrecorded

theorem Started.tells_missing {forceResume : Bool} {w : World}
    (h : Started forceResume settled w) (hdisk : w.disk = none)
    (state : RunState) : Tells settled w state := by
  have hwarns : ¬ w.Warns := by
    intro hwarns
    rcases hwarns with ⟨found, hfound, _⟩
    rw [hdisk] at hfound
    cases hfound
  constructor
  · exact fun hout => absurd (h.kept.powered hout) hwarns
  · intro hsettled hout
    rcases h.kept.armed hsettled hout with hdone | hunrecorded
    · exact absurd hdone hwarns
    · rw [h.recorded hsettled] at hunrecorded
      cases hunrecorded

theorem Tells.slate {w : World} {prior : RunState}
    (h : Tells settled w prior) :
    Tells settled w (if prior.resetConfirmed then defaultState else prior) := by
  cases hconfirmed : prior.resetConfirmed with
  | false => exact h
  | true =>
      have hcertain : prior.uncertain ≠ true := by
        simp [RunState.uncertain, hconfirmed]
      constructor
      · exact fun hout => absurd (h.powered hout) hcertain
      · exact fun hsettled hout => absurd (h.armed hsettled hout) hcertain

theorem slate_unconfirmed (prior : RunState) :
    (if prior.resetConfirmed then defaultState else prior).resetConfirmed =
      false := by
  cases hconfirmed : prior.resetConfirmed with
  | false => exact hconfirmed
  | true => rfl

theorem Loaded.unsent {forceResume : Bool} {w : World} {state : RunState}
    (h : Loaded forceResume settled w) (hstate : w.runState = some state)
    (hclear : state.uncertain = true -> forceResume = true) :
    Unsent settled w := by
  rcases h.state with ⟨found, hfound, hconfirmed, htells⟩
  have hsame : found = state := Option.some.inj (hfound.symm.trans hstate)
  rw [hsame] at htells hconfirmed
  constructor
  · apply Bool.eq_false_iff.mpr
    intro hout
    have hreleased := h.started.released (hclear (htells.powered hout))
    rw [hreleased.1] at hout
    cases hout
  · exact h.started.fresh
  · intro hsettled
    apply Bool.eq_false_iff.mpr
    intro hout
    have hreleased := h.started.released (hclear (htells.armed hsettled hout))
    rw [hreleased.2] at hout
    cases hout
  · exact ⟨state, hstate, hconfirmed⟩

theorem does_priorState {forceResume : Bool} :
    Does media A settled (Kept settled) (Started forceResume settled)
      priorState
      fun prior w => Started forceResume settled w ∧ Tells settled w prior := by
  have hkept : forall w, Started forceResume settled w -> Kept settled w :=
    fun _ h => h.kept
  apply Machine.triple_bind (does_quiet (quiet_task _) hkept hkept)
  intro _
  apply Machine.triple_bind (does_quiet (quiet_task _) hkept hkept)
  intro _
  apply does_call (o := RoleOp.stat)
    (R := fun result w => Started forceResume settled w ∧
      (result = TaskResult.ok false -> w.disk = none))
    (fun w hw => guard_of_kept hw.kept rfl)
  · intro w result w' hw hperform
    cases hperform with
    | quiet _ hsilent => cases hsilent
    | stat =>
        constructor
        · exact hw
        · intro hmissing
          simpa using hmissing
    | statFails _ => exact ⟨hw, fun hmissing => nomatch hmissing⟩
  · intro stat
    apply Machine.triple_bind (does_ofTask stat (fun w h => h.1.kept)
      (Q := fun found w => Started forceResume settled w ∧
        (found = false -> w.disk = none))
      fun found hfound w h => ⟨h.1, fun hno => h.2 (hno ▸ hfound)⟩)
    intro found
    cases found with
    | false =>
        apply Machine.triple_bind
          (does_quiet (quiet_task _) (fun w h => h.1.kept) fun w h => h.1.kept)
        intro _
        apply does_pure
        exact fun w h => ⟨h.1, h.1.tells_missing (h.2 rfl) defaultState⟩
    | true =>
        apply does_call (o := RoleOp.includeVars)
          (R := fun result w => Started forceResume settled w ∧
            forall prior, result = TaskResult.ok prior ->
              w.disk = some prior)
          (fun w hw => guard_of_kept hw.1.kept rfl)
        · intro w result w' hw hperform
          cases hperform with
          | quiet _ hsilent => cases hsilent
          | includes hdisk =>
              constructor
              · exact hw.1
              · intro prior hprior
                cases hprior
                exact hdisk
          | includeFails _ => exact ⟨hw.1, fun _ h => nomatch h⟩
        · intro loaded
          apply Machine.triple_bind (does_ofTask loaded (fun w h => h.1.kept)
            (Q := fun prior w => Started forceResume settled w ∧
              w.disk = some prior)
            fun prior hprior w h => ⟨h.1, h.2 prior hprior⟩)
          intro prior
          apply Machine.triple_bind
            (does_quiet (quiet_task _) (fun w h => h.1.kept)
              fun w h => h.1.kept)
          intro _
          apply does_pure
          exact fun w h => ⟨h.1, h.1.tells_disk h.2⟩

theorem Started.load {forceResume : Bool} {w : World} {prior : RunState}
    (h : Started forceResume settled w) (htells : Tells settled w prior) :
    Loaded forceResume settled
      (w.note (if prior.resetConfirmed then defaultState else prior)) := by
  constructor
  · exact ⟨⟨h.kept.powered, h.kept.armed⟩, h.released, h.fresh, h.recorded⟩
  · exact ⟨_, rfl, slate_unconfirmed prior,
      ⟨htells.slate.powered, htells.slate.armed⟩⟩

theorem does_refuseUncertain (state : RunState) :
    Does media A settled (Kept settled)
      (fun w => Loaded vars.forceResume settled w ∧ w.runState = some state)
      (refuseUncertain vars state)
      fun _ w => Unsent settled w ∧ w.runState = some state := by
  cases huncertain : state.uncertain with
  | true =>
      rw [refuseUncertain, if_pos huncertain]
      apply does_weaken (does_assert _ _ _ (fun w h => h.1.started.kept)
        fun w h => h.1.started.kept)
      exact fun _ w h => ⟨h.1.1.unsent h.1.2 fun _ => h.2, h.1.2⟩
  | false =>
      rw [refuseUncertain, huncertain, if_neg Bool.false_ne_true]
      apply does_pure
      intro w hw
      constructor
      · apply hw.1.unsent hw.2
        intro h
        rw [huncertain] at h
        cases h
      · exact hw.2

theorem does_clearArmed (state : RunState) :
    Does media A settled (Kept settled)
      (fun w => Unsent settled w ∧ w.runState = some state)
      (clearArmed vars state) fun _ => Unsent settled := by
  have hkept : forall w, Unsent settled w ∧ w.runState = some state ->
      Kept settled w := fun _ h => h.1.running.kept
  rw [clearArmed]
  cases state.uncertain && vars.forceResume with
  | true =>
      apply does_combine _ _ hkept hkept
      intro w found hw hfound
      exact hw.1.note hfound rfl
  | false => exact does_pure fun _ h => h.1

theorem does_state :
    Does media A settled (Kept settled) (Started vars.forceResume settled)
      (state vars) fun _ => Unsent settled := by
  apply Machine.triple_bind does_priorState
  intro prior
  have hkept : forall w, Started vars.forceResume settled w ∧
      Tells settled w prior -> Kept settled w := fun _ h => h.1.kept
  apply Machine.triple_bind
    (does_setRunState _ _ hkept hkept fun w h => h.1.load h.2)
  intro _
  apply Machine.triple_bind (does_theRunState
    (fun w h => h.started.kept) fun w h => h.started.kept)
  intro state
  apply Machine.triple_bind (does_refuseUncertain state)
  intro _
  apply Machine.triple_bind (does_clearArmed state)
  intro _
  apply does_saveState (fun w h => h.running.kept) fun w h => h.running.kept
  exact fun w state h _ => h.save state

/-!
## Tasks after the first call
-/

theorem does_combine_running (name : String) (change : RunState -> RunState)
    (hchange : forall state, (change state).bootArmed = state.bootArmed) :
    Does media A settled (Running settled) (Running settled)
      (combineRunState name change) fun _ => Running settled := by
  apply does_combine name change (fun w h => h.kept) fun w h => h
  exact fun w state h hstate => h.note hstate (hchange state)

theorem does_saveState_running :
    Does media A settled (Running settled) (Running settled) saveState
      fun _ => Running settled := by
  apply does_saveState (fun w h => h.kept) fun w h => h
  exact fun w state h hstate => h.save hstate

theorem does_quiet_running {x : RoleScript alpha} (hx : Quiet x) :
    Does media A settled (Running settled) (Running settled) x
      fun _ => Running settled :=
  does_quiet hx (fun _ h => h.kept) fun _ h => h

theorem does_defined {f : Option RunState -> RoleScript Unit}
    (hnext : forall found, Does media A settled (Running settled)
      (Running settled) (f found) fun _ => Running settled) :
    Does media A settled (Running settled) (Running settled)
      (Script.ask RoleOp.runState >>= f) fun _ => Running settled := by
  apply does_call (o := RoleOp.runState) (R := fun _ => Running settled)
    (fun w hw => guard_of_kept hw.kept rfl) _ hnext
  intro w found w' hw hperform
  cases hperform with
  | quiet _ hsilent => cases hsilent
  | reads => exact hw

theorem does_recordUncertain (action : PowerAction) :
    Does media A settled (Running settled) (Running settled)
      (recordUncertain vars action) fun _ => Running settled := by
  refine Machine.triple_bind (does_combine_running _ _ fun _ => rfl) ?_
  intro _
  apply Machine.triple_bind does_saveState_running
  intro _
  exact does_quiet_running (quiet_failWith _ _)

theorem does_observe :
    Does media A settled (Running settled) (Running settled) observe
      fun _ => Running settled := by
  apply Machine.triple_bind
    (does_quiet_running (@quiet_ask RoleOp.amtPowerQuery rfl))
  intro result
  apply Machine.triple_bind (does_quiet_running (quiet_ofTask result))
  intro observed
  have hconfirm : Does media A settled (Running settled) (Running settled)
      (confirmReset observed) fun _ => Running settled := by
    rw [confirmReset]
    cases observed.getD "" == "on" with
    | true => exact does_combine_running _ _ fun _ => rfl
    | false => exact does_pure fun _ h => h
  apply Machine.triple_bind hconfirm
  intro _
  apply Machine.triple_bind does_saveState_running
  intro _
  rw [warnUnobserved]
  cases observed.getD "" == "on" with
  | true => exact does_pure fun _ h => h
  | false => exact does_quiet_running (quiet_task _)

theorem does_rescueLifecycle (failed : FailedResult) :
    Does media A settled (Running settled) (Running settled)
      (rescueLifecycle vars failed) fun _ => Running settled := by
  have hrecord : Does media A settled (Running settled) (Running settled)
      (recordFailure failed) fun _ => Running settled := by
    apply does_defined
    intro found
    cases found.isSome with
    | false => exact does_pure fun _ h => h
    | true =>
        apply Machine.triple_bind (does_quiet_running (quiet_task _))
        intro _
        refine Machine.triple_bind (does_combine_running _ _ fun _ => rfl) ?_
        intro _
        exact does_saveState_running
  apply Machine.triple_bind hrecord
  intro _
  exact does_quiet_running (quiet_failWith _ _)

theorem does_detachSession (sessionId : Option String) :
    Does media A settled (Running settled) (Running settled)
      (detachSession vars sessionId) fun _ => Running settled := by
  rw [detachSession]
  cases truthy sessionId with
  | false => exact does_pure fun _ h => h
  | true =>
      apply does_call (o := RoleOp.amtMedia (detachParams vars sessionId))
        (R := fun _ => Running settled)
        (fun w hw => guard_of_kept hw.kept rfl)
      · intro w result w' hw hperform
        cases hperform with
        | quiet _ hsilent => cases hsilent
        | attaches hattached _ => cases hattached
        | detaches _ _ => exact hw
        | mediaFails _ => exact hw
      · intro result
        apply Machine.triple_bind (does_quiet_running (quiet_ofTask result))
        intro _
        exact does_combine_running _ _ fun _ => rfl

theorem does_alwaysDetach :
    Does media A settled (Running settled) (Running settled)
      (alwaysDetach vars) fun _ => Running settled := by
  apply does_defined
  intro found
  cases found.isSome with
  | false => exact does_pure fun _ h => h
  | true =>
      have hstate : Does media A settled (Running settled) (Running settled)
          theRunState fun _ => Running settled :=
        does_weaken (does_theRunState (fun _ h => h.kept) fun _ h => h)
          fun _ _ h => h.1
      apply Machine.triple_bind hstate
      intro state
      apply Machine.triple_bind (does_detachSession state.sessionId)
      intro _
      exact does_saveState_running

/-!
## The block
-/

/-- Nothing is sent yet, and the run state names a session. -/
structure Claimed (settled : Bool) (w : World) : Prop where
  unsent : Unsent settled w
  session : exists state session, w.runState = some state ∧
    state.sessionId = some session

theorem does_claimSession :
    Does media A settled (Running settled) (Unsent settled) claimSession
      fun _ => Claimed settled := by
  have hkept : forall w, Unsent settled w -> Kept settled w :=
    fun _ h => h.running.kept
  have hE : forall w, Unsent settled w -> Running settled w :=
    fun _ h => h.running
  apply Machine.triple_bind (does_quiet
    (@quiet_ask (RoleOp.lookupPassword _) rfl) hkept hE)
  intro fresh
  refine Machine.triple_bind (does_combine (R := Claimed settled) _ _ hkept hE
    fun w state h hstate => ⟨h.note hstate rfl, _, _, rfl, rfl⟩) ?_
  intro _
  apply does_saveState (fun w h => hkept w h.unsent) fun w h => hE w h.unsent
  exact fun w state h _ => ⟨h.unsent.save state, h.session⟩

/-- The attach of this run has returned what the media module can return. -/
theorem does_attachMedia
    (hmedia : forall session result,
      media (attachParams vars (some session)) (TaskResult.ok result) ->
        A (some result.fields.sessionState)) :
    Does media A settled (Running settled) (Unsent settled)
      (attachMedia vars) fun _ => Served A settled := by
  have hkept : forall w, Unsent settled w -> Kept settled w :=
    fun _ h => h.running.kept
  have hE : forall w, Unsent settled w -> Running settled w :=
    fun _ h => h.running
  apply Machine.triple_bind
    (does_quiet (@quiet_ask RoleOp.amtRedirection rfl) hkept hE)
  intro redirected
  apply Machine.triple_bind (does_quiet (quiet_ofTask redirected) hkept hE)
  intro _
  apply Machine.triple_bind does_claimSession
  intro _
  apply Machine.triple_bind (does_theRunState
    (fun w h => hkept w h.unsent) fun w h => hE w h.unsent)
  intro state
  apply does_call (o := RoleOp.amtMedia (attachParams vars state.sessionId))
    (R := fun result w => Unsent settled w ∧
      forall attached, result = TaskResult.ok attached ->
        Served A settled w)
    (fun w hw => guard_of_kept (hkept w hw.1.unsent) rfl)
  · intro w result w' hw hperform
    cases hperform with
    | quiet _ hsilent => cases hsilent
    | detaches hdetached _ => cases hdetached
    | mediaFails _ => exact ⟨hw.1.unsent, fun _ h => nomatch h⟩
    | @attaches _ returned _ hresult =>
        have hunsent := hw.1.unsent.attach returned.fields.sessionState
        rcases hw.1.session with ⟨found, session, hfound, hsession⟩
        have hsame : found = state := Option.some.inj (hfound.symm.trans hw.2)
        rw [← hsame, hsession] at hresult
        constructor
        · exact hunsent
        · intro attached _
          constructor
          · exact hunsent
          · have hA := hmedia session _ hresult
            simpa [World.happens] using hA
  · intro result
    apply Machine.triple_bind (does_ofTask result (fun w h => hE w h.1)
      fun attached hattached w h => h.2 attached hattached)
    intro attached
    have hserved : forall w, Served A settled w -> Kept settled w :=
      fun _ h => h.running.kept
    refine Machine.triple_bind (does_combine (R := Served A settled) _ _
      hserved (fun w h => h.running)
      fun w state h hstate => h.note hstate rfl) ?_
    intro _
    apply does_saveState hserved fun w h => h.running
    exact fun w state h _ => h.save state

theorem Served.guard {w : World} {device token : String}
    (h : Served A settled w) :
    Guard A settled w (RoleOp.amtBoot device token) := by
  constructor
  · exact h.running.kept
  · exact fun _ _ _ => ⟨h.unsent.armed, h.attached⟩
  · exact fun _ hpower => nomatch hpower

theorem Ready.guard {w : World} {action : PowerAction} (h : Ready A w) :
    Guard A settled w (RoleOp.amtPower action) := by
  constructor
  · exact h.running.kept
  · exact fun _ _ hboot => nomatch hboot
  · exact fun _ _ => ⟨h.powered, h.fresh, h.attached⟩

theorem does_armBoot :
    Does media A settled (Running settled) (Served A settled) (armBoot vars)
      fun _ => Ready A := by
  have hkept : forall w, Served A settled w -> Kept settled w :=
    fun _ h => h.running.kept
  have hE : forall w, Served A settled w -> Running settled w :=
    fun _ h => h.running
  have harmedKept : forall w, Armed A w -> Kept settled w :=
    fun _ h => h.running.kept
  have harmedE : forall w, Armed A w -> Running settled w :=
    fun _ h => h.running
  apply Machine.triple_bind (does_quiet
    (@quiet_ask (RoleOp.lookupPassword _) rfl) hkept hE)
  intro token
  apply Machine.triple_bind (does_quiet (quiet_task _) hkept hE)
  intro _
  apply Machine.triple_bind (does_quiet (quiet_task _) hkept hE)
  intro _
  apply does_call (o := RoleOp.amtBoot vars.bootProvider token)
    (R := fun _ => Armed A) (fun w hw => hw.guard)
  · intro w outcome w' hw hperform
    cases hperform with
    | quiet _ hsilent => cases hsilent
    | arms _ => exact hw.arm
  · intro outcome
    apply Machine.triple_bind
      (does_quiet (quiet_ofTask outcome) harmedKept harmedE)
    intro _
    apply Machine.triple_bind
      (does_quiet (@quiet_ask RoleOp.now rfl) harmedKept harmedE)
    intro now
    refine Machine.triple_bind (does_combine (R := Noted A) _ _ harmedKept
      harmedE fun w state h hstate => h.note hstate rfl rfl) ?_
    intro _
    apply does_saveState (fun w h => h.running.kept) fun w h => h.running
    exact fun w state h hstate => h.save hstate

theorem does_issueTransition (action : PowerAction) :
    Does media A settled (Running settled) (Ready A)
      (issueTransition action) fun _ => Running settled := by
  apply does_call (o := RoleOp.amtPower action)
    (R := fun _ => Running settled) (fun w hw => hw.guard)
  · intro w outcome w' hw hperform
    cases hperform with
    | quiet _ hsilent => cases hsilent
    | powers _ => exact hw.power
  · intro outcome
    apply Machine.triple_bind (does_quiet_running (quiet_ofTask outcome))
    intro _
    refine Machine.triple_bind (does_combine_running _ _ fun _ => rfl) ?_
    intro _
    exact does_saveState_running

theorem does_reset (found : Probe) :
    Does media A settled (Running settled) (Ready A) (reset vars found)
      fun _ => Running settled := by
  have hkept : forall w, Ready A w -> Kept settled w :=
    fun _ h => h.running.kept
  have hE : forall w, Ready A w -> Running settled w := fun _ h => h.running
  apply Machine.triple_bind (does_quiet (quiet_task _) hkept hE)
  intro _
  apply Machine.triple_bind (does_quiet (quiet_task _) hkept hE)
  intro _
  exact Machine.triple_handle (does_issueTransition (powerAction found))
    fun _ => does_recordUncertain (powerAction found)

theorem does_lifecycle
    (hmedia : forall session result,
      media (attachParams vars (some session)) (TaskResult.ok result) ->
        A (some result.fields.sessionState))
    (hwithout : vars.bootProvider ≠ "ider_cdrom" -> forall seen, A seen) :
    Does media A settled (Running settled) (Unsent settled)
      (lifecycle vars) fun _ => Running settled := by
  apply Machine.triple_bind (does_quiet (quiet_probe vars)
    (fun _ h => h.running.kept) fun _ h => h.running)
  intro found
  have hrest : Does media A settled (Running settled) (Served A settled)
      (armBoot vars >>= fun _ => reset vars found >>= fun _ =>
        observe >>= fun _ =>
          if vars.waitForHandoff = true then waitForHandoff else pure ())
      fun _ => Running settled := by
    apply Machine.triple_bind does_armBoot
    intro _
    apply Machine.triple_bind (does_reset found)
    intro _
    apply Machine.triple_bind does_observe
    intro _
    cases vars.waitForHandoff with
    | false => exact does_pure fun _ h => h
    | true =>
        apply Machine.triple_bind
          (does_quiet_running (@quiet_ask RoleOp.waitFor rfl))
        exact fun result => does_quiet_running (quiet_ofTask result)
  cases hprovider : vars.bootProvider == "ider_cdrom" with
  | true =>
      apply Machine.triple_bind (does_attachMedia hmedia)
      exact fun _ => hrest
  | false =>
      intro w hw
      have hother : vars.bootProvider ≠ "ider_cdrom" := by
        intro heq
        rw [heq] at hprovider
        cases hprovider
      exact hrest w ⟨hw, hwithout hother _⟩

/-- One run, from where the last one was cut off. -/
theorem does_main
    (hmedia : Accepted vars -> forall session result,
      media (attachParams vars (some session)) (TaskResult.ok result) ->
        A (some result.fields.sessionState))
    (hwithout : vars.bootProvider ≠ "ider_cdrom" -> forall seen, A seen) :
    Does media A settled (Kept settled) (Begins settled) (main vars)
      fun _ => Kept settled := by
  apply does_call (o := RoleOp.started vars.forceResume)
    (R := fun _ => Started vars.forceResume settled)
    (fun w hw => guard_of_kept hw.kept rfl)
  · intro w answer w' hw hperform
    cases hperform with
    | quiet _ hsilent => cases hsilent
    | started _ => exact hw.start vars.forceResume
  · intro _
    have hvalidate : Does media A settled (Kept settled)
        (Started vars.forceResume settled) (validate vars)
        fun _ w => Started vars.forceResume settled w ∧ Accepted vars :=
      Machine.triple_returns
        (does_quiet (quiet_validate vars) (fun _ h => h.kept) fun _ h => h.kept)
        (returns_validate vars)
    apply Machine.triple_bind hvalidate
    intro _ w hw
    have haccepted := hw.2
    refine Machine.triple_bind does_state ?_ w hw.1
    intro _
    have hblock : Does media A settled (Running settled) (Unsent settled)
        ((lifecycle vars).handle (rescueLifecycle vars))
        fun _ => Running settled :=
      Machine.triple_handle (does_lifecycle (hmedia haccepted) hwithout)
        fun failed => does_rescueLifecycle failed
    have hdetach : Does media A settled (Kept settled) (Running settled)
        (alwaysDetach vars) fun _ => Running settled :=
      fun w hw => Machine.safe_mono (fun _ _ h => h) (fun _ _ h => h)
        (fun _ _ h => h.kept) (does_alwaysDetach w hw)
    apply Machine.triple_ensuring hblock
    · intro _
      apply Machine.triple_bind hdetach
      exact fun _ => does_pure fun _ h => h.kept
    · intro _
      apply Machine.triple_bind hdetach
      exact fun _ => does_raise fun _ h => h.kept

end Tasks

end BaremetalInstall
end IntelAmt
