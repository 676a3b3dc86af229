import IntelAmt.BaremetalInstall.Lifecycle

/-!
# Run after run

What cannot be taken back is not sent twice over an outcome that nobody has
confirmed: neither the transition, nor the arming as long as no run is cut
off between the arming and its record.
-/

namespace IntelAmt
namespace BaremetalInstall

open Foundation MediaSession

/-- What an operation adds to the log. -/
inductive Logs : RoleOp -> Event -> Prop where
  | armed {device token : String} :
      Logs (RoleOp.amtBoot device token) Event.armed
  | powered {action : PowerAction} :
      Logs (RoleOp.amtPower action) Event.powered
  | other {o : RoleOp} {event : Event} (harmed : event.isArmed = false)
      (hpowered : event.isPowered = false) : Logs o event

theorem perform_log
    {media : AmtMedia.Params -> TaskResult AmtMedia.ModuleResult -> Prop}
    {w w' : World} {o : RoleOp} {a : RoleAnswer o}
    (h : Perform media w o a w') :
    w'.log = w.log ∨ exists event, w'.log = w.log ++ [event] ∧
      Logs o event := by
  cases h with
  | started _ => exact Or.inr ⟨_, rfl, Logs.other rfl rfl⟩
  | saves _ => exact Or.inr ⟨_, rfl, Logs.other rfl rfl⟩
  | attaches _ _ => exact Or.inr ⟨_, rfl, Logs.other rfl rfl⟩
  | arms _ => exact Or.inr ⟨_, rfl, Logs.armed⟩
  | powers _ => exact Or.inr ⟨_, rfl, Logs.powered⟩
  | quiet _ _ => exact Or.inl rfl
  | stat => exact Or.inl rfl
  | statFails _ => exact Or.inl rfl
  | includes _ => exact Or.inl rfl
  | includeFails _ => exact Or.inl rfl
  | reads => exact Or.inl rfl
  | sets _ _ => exact Or.inl rfl
  | setFails _ => exact Or.inl rfl
  | saveFails _ => exact Or.inl rfl
  | detaches _ _ => exact Or.inl rfl
  | mediaFails _ => exact Or.inl rfl

/-- Any of the runs, wherever the ones before it were cut off. -/
abbrev Runs (host : String) (yields : RoleScript Unit -> World -> Prop)
    (disk : Option RunState) (c : RoleScript Unit × World) : Prop :=
  (controller anyMedia).Serial yields (runs host) (World.start disk) c

/-- A run may be cut off anywhere. -/
def anywhere (_ : RoleScript Unit) (_ : World) : Prop := True

/-- A run may be cut off wherever each arming has been recorded. -/
def recorded (_ : RoleScript Unit) (w : World) : Prop :=
  unrecorded w.log = false

section Runs

variable {host : String} {yields : RoleScript Unit -> World -> Prop}
variable {disk : Option RunState} {settled : Bool}

def anyState (_ : Option Json) : Prop := True

theorem runs_safe
    (hover : settled = true ->
      forall x w, yields x w -> unrecorded w.log = false)
    {c : RoleScript Unit × World} (h : Runs host yields disk c) :
    (controller anyMedia).Safe (Guard anyState settled)
      (fun _ => Kept settled) (fun _ => Kept settled) c.1 c.2 := by
  apply Machine.serial_safe (I := Begins settled) (begins_start disk) _ _ h
  · intro x hx
    rcases hx with ⟨vars, _, rfl⟩
    exact does_main (fun _ _ _ _ => trivial) fun _ _ => trivial
  · intro x w hgives hsafe
    constructor
    · exact Machine.safe_anywhere (fun w o hguard => hguard.kept) hsafe
    · exact fun hsettled => hover hsettled x w hgives

/-- What is sent only when nothing is pending is never sent twice. -/
theorem runs_separated {issued ends : Event -> Bool}
    (hover : settled = true ->
      forall x w, yields x w -> unrecorded w.log = false)
    (hissued : forall w o event, Guard anyState settled w o ->
      Logs o event -> issued event = true ->
        pending issued ends w.log = false)
    {c : RoleScript Unit × World} (h : Runs host yields disk c) :
    Separated issued ends c.2.log := by
  apply Machine.serial_keeps
    (J := fun w : World => Separated issued ends w.log) separated_nil
    (steady _) _ (fun c hc => runs_safe hover hc) h
  intro w o a w' hw hguard hperform
  rcases perform_log hperform with hsame | ⟨event, hlog, hevent⟩
  · rw [hsame]
    exact hw
  · rw [hlog]
    exact separated_snoc hw (hissued w o event hguard hevent)

end Runs

/-!
## A host that answers in the same way in every run
-/

structure Answers where
  boot : TaskResult Unit
  power : TaskResult Unit

def timedOut : TaskResult Unit :=
  TaskResult.failed { msg := "timed out", indeterminate := true }

def Answers.act (answers : Answers) (w : World) :
    (o : RoleOp) -> RoleAnswer o × World
  | RoleOp.started forceResume =>
      ((), { w with runState := none }.happens (Event.started forceResume))
  | RoleOp.task _ => (TaskResult.ok (), w)
  | RoleOp.stat => (TaskResult.ok w.disk.isSome, w)
  | RoleOp.includeVars =>
      match w.disk with
      | some state => (TaskResult.ok state, w)
      | none => (TaskResult.failed { msg := "no such file" }, w)
  | RoleOp.runState => (w.runState, w)
  | RoleOp.setRunState _ state =>
      (TaskResult.ok (), { w with runState := some state })
  | RoleOp.saveState state =>
      (TaskResult.ok (),
        { w with disk := some state }.happens (Event.saved state))
  | RoleOp.lookupPassword _ => ("0123456789abcdef", w)
  | RoleOp.now => ("2024-01-01T00:00:00Z", w)
  | RoleOp.amtInfo =>
      (TaskResult.ok
        { reachable := true
          bootOncePxe := true
          storageRedirection := true
          powerState := some "off" }, w)
  | RoleOp.amtRedirection => (TaskResult.ok (), w)
  | RoleOp.amtMedia _ => (TaskResult.failed { msg := "no media" }, w)
  | RoleOp.amtBoot _ _ => (answers.boot, w.happens Event.armed)
  | RoleOp.amtPower _ => (answers.power, w.happens Event.powered)
  | RoleOp.amtPowerQuery => (TaskResult.ok (some "on"), w)
  | RoleOp.waitFor => (TaskResult.ok (), w)

theorem act_performs (answers : Answers) (w : World) (o : RoleOp) :
    Perform anyMedia w o (answers.act w o).1 (answers.act w o).2 := by
  cases o with
  | started forceResume => exact Perform.started forceResume
  | stat => exact Perform.stat
  | includeVars =>
      rw [Answers.act]
      cases hdisk : w.disk with
      | some state => exact Perform.includes hdisk
      | none => exact Perform.includeFails _
  | runState => exact Perform.reads
  | setRunState name state => exact Perform.sets name state
  | saveState state => exact Perform.saves state
  | amtMedia params => exact Perform.mediaFails trivial
  | amtBoot device token => exact Perform.arms answers.boot
  | amtPower action => exact Perform.powers answers.power
  | task _ => exact Perform.quiet _ rfl
  | lookupPassword _ => exact Perform.quiet _ rfl
  | now => exact Perform.quiet _ rfl
  | amtInfo => exact Perform.quiet _ rfl
  | amtRedirection => exact Perform.quiet _ rfl
  | amtPowerQuery => exact Perform.quiet _ rfl
  | waitFor => exact Perform.quiet _ rfl

/-- A run of the role from its first task on. -/
def Answers.run (answers : Answers) (vars : Vars) (w : World) :
    RoleScript Unit × World :=
  Machine.follow answers.act 60 (main vars, w)

/-- A run of the role and another one behind it. -/
def Answers.twoRuns (answers : Answers) (first second : Vars) :
    RoleScript Unit × World :=
  answers.run second (answers.run first (World.start none)).2

theorem runs_twoRuns {yields : RoleScript Unit -> World -> Prop}
    (answers : Answers) (first second : Vars)
    (hhost : second.host = first.host)
    (hover : yields (answers.run first (World.start none)).1
      (answers.run first (World.start none)).2) :
    Runs first.host yields none (answers.twoRuns first second) := by
  have hfirst : Runs first.host yields none
      (answers.run first (World.start none)) :=
    Machine.serial_reaches (Machine.Serial.begins ⟨first, rfl, rfl⟩)
      (Machine.reaches_follow (act_performs answers) 60 _)
  exact Machine.serial_reaches
    (Machine.Serial.next hfirst hover ⟨second, hhost, rfl⟩)
    (Machine.reaches_follow (act_performs answers) 60 _)

def networkVars (forceResume : Bool) : Vars where
  playHosts := ["host"]
  playBatch := 1
  host := "10.0.0.1"
  password := some "password"
  useTls := false
  allowInsecureTransport := true
  tlsFingerprint := none
  confirmDestructive := true
  bootProvider := "pxe"
  isoPath := none
  answerImagePath := none
  answerImageWritable := false
  mediaStartMode := Ider.StartMode.graceful
  mediaPort := none
  mediaAllowedDirectory := none
  mediaRuntimeDir := "/run/amt"
  mediaAttachTimeout := 60
  mediaDetachTimeout := 30
  waitForHandoff := false
  handoffHost := none
  handoffPort := 22
  handoffTimeout := 3600
  stateFile := "/var/amt/host.yml"
  forceResume := forceResume

/-!
## The transition
-/

/-- A transition is not sent again until a reset has been confirmed or the
operator has acknowledged it, and never twice in a run. -/
theorem one_transition_until_released (host : String)
    (disk : Option RunState) (c : RoleScript Unit × World)
    (h : Runs host anywhere disk c) :
    Separated Event.isPowered Event.releases c.2.log ∧
      Separated Event.isPowered Event.isStarted c.2.log := by
  have hover : false = true -> forall x w, anywhere x w ->
      unrecorded w.log = false := fun hsettled => nomatch hsettled
  constructor
  · apply runs_separated hover _ h
    intro w o event hguard hlogs hevent
    cases hlogs with
    | armed => cases hevent
    | @powered action => exact (hguard.power action rfl).1
    | other _ hpowered =>
        rw [hpowered] at hevent
        cases hevent
  · apply runs_separated hover _ h
    intro w o event hguard hlogs hevent
    cases hlogs with
    | armed => cases hevent
    | @powered action => exact (hguard.power action rfl).2.1
    | other _ hpowered =>
        rw [hpowered] at hevent
        cases hevent

def resetTimesOut : Answers where
  boot := TaskResult.ok ()
  power := timedOut

/-- A reset that times out, and a second one that the operator has asked
for. -/
theorem one_transition_until_acknowledged :
    exists c, Runs "10.0.0.1" anywhere none c ∧
      (c.2.log.filter Event.isPowered).length = 2 ∧
      Separated Event.isPowered Event.releases c.2.log ∧
      Separated Event.isPowered Event.isStarted c.2.log := by
  have hrun : Runs "10.0.0.1" anywhere none
      (resetTimesOut.twoRuns (networkVars false) (networkVars true)) :=
    runs_twoRuns resetTimesOut (networkVars false) (networkVars true) rfl
      trivial
  have htwo : ((resetTimesOut.twoRuns (networkVars false)
      (networkVars true)).2.log.filter Event.isPowered).length = 2 := by
    decide +kernel
  exact ⟨_, hrun, htwo, one_transition_until_released _ _ _ hrun⟩

/-!
## The arming
-/

/-- An arming is not sent again until a reset has been confirmed or the
operator has acknowledged it, as long as no run is cut off between an arming
and its record. -/
theorem one_arming_until_released (host : String) (disk : Option RunState)
    (c : RoleScript Unit × World) (h : Runs host recorded disk c) :
    Separated Event.isArmed Event.releases c.2.log := by
  have hover : true = true -> forall x w, recorded x w ->
      unrecorded w.log = false := fun _ _ _ hgives => hgives
  apply runs_separated hover _ h
  intro w o event hguard hlogs hevent
  cases hlogs with
  | @armed device token => exact (hguard.boot device token rfl).1 rfl
  | powered => cases hevent
  | other harmed _ =>
      rw [harmed] at hevent
      cases hevent

/-- A run that records its arming, and a second one that the operator has
asked for. -/
theorem one_arming_until_acknowledged :
    exists c, Runs "10.0.0.1" recorded none c ∧
      (c.2.log.filter Event.isArmed).length = 2 ∧
      Separated Event.isArmed Event.releases c.2.log := by
  have hrecorded : unrecorded (resetTimesOut.run (networkVars false)
      (World.start none)).2.log = false := by
    decide +kernel
  have hrun : Runs "10.0.0.1" recorded none
      (resetTimesOut.twoRuns (networkVars false) (networkVars true)) :=
    runs_twoRuns resetTimesOut (networkVars false) (networkVars true) rfl
      hrecorded
  have htwo : ((resetTimesOut.twoRuns (networkVars false)
      (networkVars true)).2.log.filter Event.isArmed).length = 2 := by
    decide +kernel
  exact ⟨_, hrun, htwo, one_arming_until_released _ _ _ hrun⟩

def armingTimesOut : Answers where
  boot := timedOut
  power := TaskResult.ok ()

/-- Its log after two runs that the operator has not acknowledged. -/
def timedOutTwice : List Event :=
  (armingTimesOut.twoRuns (networkVars false) (networkVars false)).2.log

/-- An arming that times out is sent again by the next run: its record is
behind the call, and what the failed run saves says that nothing is armed. -/
theorem timed_out_arming_sent_again :
    ¬ forall (host : String) (disk : Option RunState)
      (c : RoleScript Unit × World), Runs host anywhere disk c ->
        Separated Event.isArmed Event.releases c.2.log := by
  intro hall
  have hseparated : Separated Event.isArmed Event.releases timedOutTwice :=
    hall _ none _ (runs_twoRuns armingTimesOut (networkVars false)
      (networkVars false) rfl trivial)
  have harmed : timedOutTwice[7]?.map Event.isArmed = some true := by
    decide +kernel
  have hpending : pending Event.isArmed Event.releases
      (timedOutTwice.take 7) = true := by
    decide +kernel
  rw [hseparated.pending_take harmed] at hpending
  cases hpending

end BaremetalInstall
end IntelAmt
