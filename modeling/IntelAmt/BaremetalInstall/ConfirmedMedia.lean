import IntelAmt.AmtMedia.FirstLook
import IntelAmt.AmtMedia.OneDaemon
import IntelAmt.BaremetalInstall.Resume

/-!
# Arming and reset behind an attach

A run that attaches media arms and resets only behind an attach that has
returned.  What the attach has returned is `attached`, unless it has found a
session alive that says something else.
-/

namespace IntelAmt
namespace BaremetalInstall

open Foundation MediaSession

/-- The answers that the operating system gives to the calls of the media
module, by the options of the call. -/
abbrev SystemAnswers : Type :=
  AmtMedia.Params -> Nat -> (o : SystemOp) -> SystemAnswer o

/-- The module has ended and not only waited as long as it was followed. -/
def hasEnded : Raised -> Bool
  | Raised.waiting => false
  | _ => true

/-- What the media module returns on these answers. -/
def returnedOn (answers : SystemAnswers) (params : AmtMedia.Params) :
    TaskResult AmtMedia.ModuleResult -> Prop
  | TaskResult.ok result => exists looks,
      (Script.play (answers params) 0 (AmtMedia.main looks params)).1 =
        Except.ok result
  | TaskResult.failed _ => exists looks raised,
      (Script.play (answers params) 0 (AmtMedia.main looks params)).1 =
        Except.error raised ∧ hasEnded raised = true

/-- The attach of this run has returned `attached`. -/
def Confirmed (seen : Option Json) : Prop :=
  exists sessionState, seen = some sessionState ∧
    AmtMedia.stateIs sessionState SessionState.attached.name = true

/-- In every run, the arming and the transition are sent behind an attach that
has returned `attached`. -/
def ResetsIntoConfirmedMedia (answers : SystemAnswers) (vars : Vars) : Prop :=
  forall (disk : Option RunState) (o : RoleOp)
    (next : RoleAnswer o -> RoleScript Unit) (w : World),
    (controller (returnedOn answers)).Reaches
      (main vars, World.start disk) (Script.call o next, w) ->
    sends o = true -> Confirmed (attachedAs w.log)

/-- No attach finds a session alive whose record says anything but
`attached`. -/
def NoneLiveUnattached (answers : SystemAnswers) (vars : Vars) : Prop :=
  forall session record fields,
    (Script.play (answers (attachParams vars (some session))) 0
      (AmtMedia.firstLook (attachParams vars (some session)))).1 =
        Except.ok (some record) ->
    AmtMedia.statusFields (some record) = Except.ok fields ->
    AmtMedia.isAttached fields = true

section Attach

variable {answers : SystemAnswers} {vars : Vars}

theorem given_of_truthy {option : Option String} (h : truthy option = true) :
    (AmtMedia.given option).isNone = false := by
  unfold truthy at h
  rw [Option.isNone_eq_false_iff]
  exact h

theorem Accepted.trusted (h : Accepted vars) (session : Option String) :
    AmtMedia.Trusted (attachParams vars session) := by
  have hconnection := h.connection
  simp only [Bool.and_eq_true, Bool.or_eq_true, Bool.not_eq_true'] at hconnection
  constructor
  · rfl
  · rcases hconnection.2 with ⟨htls, _⟩ | ⟨htls, hinsecure⟩
    · simp [Tls.enforceTransportPolicy, attachParams, htls]
    · simp [Tls.enforceTransportPolicy, attachParams, htls, hinsecure]
  · rcases hconnection.2 with ⟨htls, hpin⟩ | ⟨htls, _⟩
    · have hgiven := given_of_truthy hpin
      simp only [AmtMedia.enforceRedirectionTrustPolicy, attachParams, htls,
        hgiven]
      rfl
    · simp [AmtMedia.enforceRedirectionTrustPolicy, attachParams,
        AmtMedia.given, htls]

theorem confirmed_of_returned (haccepted : Accepted vars)
    (hnone : NoneLiveUnattached answers vars) (session : String)
    (result : AmtMedia.ModuleResult)
    (h : returnedOn answers (attachParams vars (some session))
      (TaskResult.ok result)) :
    Confirmed (some result.fields.sessionState) := by
  rcases h with ⟨looks, hplay⟩
  have htrusted := haccepted.trusted (some session)
  rcases AmtMedia.main_returns htrusted rfl hplay with
    hattached | ⟨record, hlook, hstatus⟩
  · exact ⟨_, rfl, hattached⟩
  · exact ⟨_, rfl, hnone session record result.fields hlook hstatus⟩

theorem resets_of_none_live (hprovider : vars.bootProvider = "ider_cdrom")
    (h : Accepted vars -> NoneLiveUnattached answers vars) :
    ResetsIntoConfirmedMedia answers vars := by
  intro disk o next w hreaches hsends
  have hmain : Does (returnedOn answers) Confirmed false (Kept false)
      (Begins false) (main vars) fun _ => Kept false :=
    does_main (fun haccepted => confirmed_of_returned haccepted (h haccepted))
      fun hother => absurd hprovider hother
  have hsafe := Machine.safe_reaches (hmain _ (begins_start disk)) hreaches
  have hguard := Machine.safe_guarded hsafe
  cases o with
  | amtBoot device token => exact (hguard.boot device token rfl).2
  | amtPower action => exact (hguard.power action rfl).2.2
  | _ => cases hsends

end Attach

/-!
## A run that arms behind a live session
-/

section Finding

variable {media : AmtMedia.Params -> TaskResult AmtMedia.ModuleResult -> Prop}
variable {w w' : World} {alpha beta : Type}
variable {c : RoleScript alpha × World}

theorem reaches_ask {o : RoleOp} {a : RoleAnswer o}
    {f : RoleAnswer o -> RoleScript alpha} (h : Perform media w o a w')
    (hnext : (controller media).Reaches (f a, w') c) :
    (controller media).Reaches (Script.ask o >>= f, w) c :=
  Machine.reaches_call (a := a) h hnext

theorem reaches_task (name : String) :
    (controller media).Reaches (task name, w) (Script.returned (), w) := by
  have hperform := @Perform.quiet media w (RoleOp.task name)
    (TaskResult.ok ()) rfl
  exact Machine.reaches_call hperform Relation.ReflTransGen.refl

theorem reaches_assert {name : String} {condition : Bool} {failMsg : String}
    (h : condition = true) :
    (controller media).Reaches (assertThat name condition failMsg, w)
      (Script.returned (), w) := by
  rw [h]
  exact Machine.reaches_then (reaches_task name) Relation.ReflTransGen.refl

theorem reaches_ite {condition : Bool} {x : RoleScript Unit}
    {f : Unit -> RoleScript alpha}
    (hx : condition = true -> (controller media).Reaches (x, w)
      (Script.returned (), w))
    (hnext : (controller media).Reaches (f (), w) c) :
    (controller media).Reaches
      (if condition = true then x >>= f else f (), w) c := by
  cases condition with
  | false => exact hnext
  | true =>
      rw [if_pos rfl]
      exact Machine.reaches_then (hx rfl) hnext

theorem reaches_setRunState {name : String} {state : RunState}
    {f : Unit -> RoleScript alpha}
    (hnext : (controller media).Reaches (f (), w.note state) c) :
    (controller media).Reaches (setRunState name state >>= f, w) c :=
  reaches_ask (o := RoleOp.setRunState name state) (Perform.sets name state)
    hnext

theorem reaches_theRunState {state : RunState}
    {f : RunState -> RoleScript alpha} (hstate : w.runState = some state)
    (hnext : (controller media).Reaches (f state, w) c) :
    (controller media).Reaches (theRunState >>= f, w) c := by
  apply reaches_ask (o := RoleOp.runState) Perform.reads
  rw [hstate]
  exact hnext

theorem reaches_combine {name : String} {change : RunState -> RunState}
    {state : RunState} {f : Unit -> RoleScript alpha}
    (hstate : w.runState = some state)
    (hnext : (controller media).Reaches (f (), w.note (change state)) c) :
    (controller media).Reaches (combineRunState name change >>= f, w) c := by
  apply reaches_ask (o := RoleOp.runState) Perform.reads
  rw [hstate]
  exact reaches_ask (o := RoleOp.setRunState name (change state))
    (Perform.sets name (change state)) hnext

theorem reaches_saveState {state : RunState}
    (hstate : w.runState = some state) :
    (controller media).Reaches (saveState, w)
      (Script.returned (), w.save state) := by
  apply reaches_ask (o := RoleOp.runState) Perform.reads
  rw [hstate]
  exact reaches_ask (o := RoleOp.saveState state) (Perform.saves state)
    Relation.ReflTransGen.refl

theorem reaches_validate {vars : Vars} (h : Accepted vars) :
    (controller media).Reaches (validate vars, w)
      (Script.returned (), w) := by
  apply Machine.reaches_then (reaches_assert h.oneHost)
  apply Machine.reaches_then (reaches_assert h.confirmed)
  apply Machine.reaches_then (reaches_assert h.provider)
  apply Machine.reaches_then (reaches_assert h.connection)
  apply reaches_ite fun hwait => reaches_assert (h.handoff hwait)
  cases hider : vars.bootProvider == "ider_cdrom" with
  | true => exact reaches_assert (h.media hider)
  | false => exact Relation.ReflTransGen.refl

theorem reaches_state {vars : Vars} (hdisk : w.disk = none) :
    (controller media).Reaches (state vars, w)
      (Script.returned (), (w.note defaultState).save defaultState) := by
  have hprior : (controller media).Reaches (priorState, w)
      (Script.returned defaultState, w) := by
    apply Machine.reaches_then (reaches_task _)
    apply Machine.reaches_then (reaches_task _)
    apply reaches_ask (o := RoleOp.stat) Perform.stat
    rw [hdisk]
    have hdefault : (controller media).Reaches
        (task "Default run state when no prior state file exists" >>= fun _ =>
          pure defaultState, w) (Script.returned defaultState, w) :=
      Machine.reaches_then (reaches_task _) Relation.ReflTransGen.refl
    exact hdefault
  apply Machine.reaches_then hprior
  apply reaches_setRunState
  have hnoted : (w.note defaultState).runState = some defaultState := rfl
  exact reaches_theRunState hnoted (reaches_saveState hnoted)

/-- A host that can do all that the role asks for. -/
def capable : Probe where
  reachable := true
  bootOncePxe := true
  storageRedirection := true
  powerState := none

theorem reaches_probe {vars : Vars} :
    (controller media).Reaches (probe vars, w)
      (Script.returned capable, w) := by
  have hperform := @Perform.quiet media w RoleOp.amtInfo
    (TaskResult.ok capable) rfl
  apply reaches_ask hperform
  have hreachable : (controller media).Reaches
      (assertThat "Require the endpoint to be reachable" true
        ("amt_info reports " ++ vars.host ++
          " unreachable; refusing to proceed."), w)
      (Script.returned (), w) := reaches_assert rfl
  apply Machine.reaches_then hreachable
  apply reaches_ite fun _ => reaches_assert rfl
  exact reaches_ite (fun _ => reaches_assert rfl) Relation.ReflTransGen.refl

/-- The run state behind the claim of a session. -/
def claimed (session : String) : RunState :=
  { defaultState with sessionId := some session }

theorem reaches_claimSession {session : String}
    (hstate : w.runState = some defaultState) :
    (controller media).Reaches (claimSession, w)
      (Script.returned (),
        (w.note (claimed session)).save (claimed session)) := by
  have hperform := @Perform.quiet media w (RoleOp.lookupPassword
    "length=32 chars=ascii_lowercase,digits") session rfl
  apply reaches_ask hperform
  apply reaches_combine hstate
  have hclaimed : (w.note (claimed session)).runState =
      some (claimed session) := rfl
  exact reaches_saveState hclaimed

theorem reaches_attachMedia {vars : Vars} {session : String}
    {result : AmtMedia.ModuleResult} (hstate : w.runState = some defaultState)
    (hmedia : media (attachParams vars (some session))
      (TaskResult.ok result)) :
    exists w' recorded, (controller media).Reaches (attachMedia vars, w)
        (Script.returned (), w') ∧ w'.runState = some recorded ∧
      attachedAs w'.log = some result.fields.sessionState := by
  let persisted := (w.note (claimed session)).save (claimed session)
  let attached : RunState :=
    { claimed session with
      mediaAttached := true
      sessionId := some result.sessionId }
  let reported :=
    persisted.happens (Event.attached result.fields.sessionState)
  refine ⟨(reported.note attached).save attached, attached, ?_, rfl, ?_⟩
  · have hredirected := @Perform.quiet media w RoleOp.amtRedirection
      (TaskResult.ok ()) rfl
    apply reaches_ask hredirected
    have hclaim := @reaches_claimSession media w session hstate
    apply Machine.reaches_then hclaim
    have hpersisted : persisted.runState = some (claimed session) := rfl
    apply reaches_theRunState hpersisted
    have hattaches : Perform media persisted
        (RoleOp.amtMedia (attachParams vars (some session)))
        (TaskResult.ok result) reported := Perform.attaches rfl hmedia
    apply reaches_ask hattaches
    have hreported : reported.runState = some (claimed session) := rfl
    apply reaches_combine hreported
    have hnoted : (reported.note attached).runState = some attached := rfl
    exact reaches_saveState hnoted
  · rw [attachedAs_save]
    exact attachedAs_attached _ _

/-- The lifecycle behind the attach. -/
def armAndReset (vars : Vars) (found : Probe) : RoleScript Unit := do
  armBoot vars
  reset vars found
  observe
  if vars.waitForHandoff then waitForHandoff

/-- A run comes to what its lifecycle comes to behind this attach. -/
theorem reaches_behind_attach {vars : Vars} {session : String}
    {result : AmtMedia.ModuleResult} (haccepted : Accepted vars)
    (hprovider : vars.bootProvider = "ider_cdrom")
    (hmedia : media (attachParams vars (some session))
      (TaskResult.ok result)) :
    exists w recorded, w.runState = some recorded ∧
      attachedAs w.log = some result.fields.sessionState ∧
      forall (o : RoleOp) next w',
        (controller media).Reaches (armAndReset vars capable, w)
          (Script.call o next, w') ->
        exists next', (controller media).Reaches (main vars, World.start none)
          (Script.call o next', w') := by
  let started := { World.start none with runState := none }.happens
    (Event.started vars.forceResume)
  let loaded := (started.note defaultState).save defaultState
  have hloaded : loaded.runState = some defaultState := rfl
  rcases reaches_attachMedia hloaded hmedia with
    ⟨w, recorded, hattach, hrecorded, hattached⟩
  refine ⟨w, recorded, hrecorded, hattached, ?_⟩
  intro o next w' hbehind
  have hlifecycle : (controller media).Reaches (lifecycle vars, loaded)
      (Script.call o next, w') := by
    apply Machine.reaches_then reaches_probe
    have hider : (vars.bootProvider == "ider_cdrom") = true := by
      simp [hprovider]
    rw [hider, if_pos rfl]
    exact Machine.reaches_then hattach hbehind
  have hstarted : Perform media (World.start none)
      (RoleOp.started vars.forceResume) () started :=
    Perform.started vars.forceResume
  constructor
  · apply reaches_ask hstarted
    apply Machine.reaches_then (reaches_validate haccepted)
    apply Machine.reaches_then (reaches_state rfl)
    exact Machine.reaches_ensuring (Machine.reaches_handle hlifecycle rfl)

theorem reaches_amtBoot (vars : Vars) (w : World) :
    exists next, (controller media).Reaches (armBoot vars, w)
      (Script.call (RoleOp.amtBoot vars.bootProvider "token") next, w) := by
  have htoken := @Perform.quiet media w (RoleOp.lookupPassword
    "length=32 chars=ascii_letters,digits") "token" rfl
  constructor
  · apply reaches_ask htoken
    apply Machine.reaches_then (reaches_task _)
    apply Machine.reaches_then (reaches_task _)
    exact Relation.ReflTransGen.refl

theorem reaches_armBoot (vars : Vars) {w : World} {recorded : RunState}
    (hstate : w.runState = some recorded) :
    exists w', (controller media).Reaches (armBoot vars, w)
        (Script.returned (), w') ∧ attachedAs w'.log = attachedAs w.log := by
  let armed : RunState :=
    { recorded with
      bootArmed := true
      actionTokenIssuedAt := some "now" }
  let sent := w.happens Event.armed
  refine ⟨(sent.note armed).save armed, ?_, ?_⟩
  · have htoken := @Perform.quiet media w (RoleOp.lookupPassword
      "length=32 chars=ascii_letters,digits") "token" rfl
    apply reaches_ask htoken
    apply Machine.reaches_then (reaches_task _)
    apply Machine.reaches_then (reaches_task _)
    have harms : Perform media w (RoleOp.amtBoot vars.bootProvider "token")
        (TaskResult.ok ()) sent := Perform.arms (TaskResult.ok ())
    apply reaches_ask harms
    have hnow := @Perform.quiet media sent RoleOp.now "now" rfl
    apply reaches_ask hnow
    have hsent : sent.runState = some recorded := hstate
    apply reaches_combine hsent
    have hnoted : (sent.note armed).runState = some armed := rfl
    exact reaches_saveState hnoted
  · rw [attachedAs_save]
    exact attachedAs_armed _

theorem reaches_amtPower (vars : Vars) (found : Probe) (w : World) :
    exists next, (controller media).Reaches (reset vars found, w)
      (Script.call (RoleOp.amtPower (powerAction found)) next, w) := by
  constructor
  · apply Machine.reaches_then (reaches_task _)
    apply Machine.reaches_then (reaches_task _)
    exact Machine.reaches_handle Relation.ReflTransGen.refl rfl

theorem reaches_arming {vars : Vars} {session : String}
    {result : AmtMedia.ModuleResult} (haccepted : Accepted vars)
    (hprovider : vars.bootProvider = "ider_cdrom")
    (hmedia : media (attachParams vars (some session))
      (TaskResult.ok result)) :
    exists token next w, (controller media).Reaches
      (main vars, World.start none)
      (Script.call (RoleOp.amtBoot vars.bootProvider token) next, w) ∧
        attachedAs w.log = some result.fields.sessionState := by
  rcases reaches_behind_attach haccepted hprovider hmedia with
    ⟨w, recorded, hrecorded, hattached, hmain⟩
  rcases @reaches_amtBoot media vars w with ⟨next, harm⟩
  rcases hmain _ _ w (Machine.reaches_bind harm) with ⟨next', hreaches⟩
  exact ⟨_, next', w, hreaches, hattached⟩

theorem reaches_transition {vars : Vars} {session : String}
    {result : AmtMedia.ModuleResult} (haccepted : Accepted vars)
    (hprovider : vars.bootProvider = "ider_cdrom")
    (hmedia : media (attachParams vars (some session))
      (TaskResult.ok result)) :
    exists next w, (controller media).Reaches
      (main vars, World.start none)
      (Script.call (RoleOp.amtPower PowerAction.reset) next, w) := by
  rcases reaches_behind_attach haccepted hprovider hmedia with
    ⟨w, recorded, hrecorded, _, hmain⟩
  rcases @reaches_armBoot media vars w recorded hrecorded with ⟨w', harm, _⟩
  have hbehind : exists next, (controller media).Reaches
      (armAndReset vars capable, w)
      (Script.call (RoleOp.amtPower PowerAction.reset) next, w') := by
    rcases @reaches_amtPower media vars capable w' with ⟨next, hpower⟩
    constructor
    · apply Machine.reaches_then harm
      exact Machine.reaches_bind hpower
  rcases hbehind with ⟨next, hbehind⟩
  rcases hmain _ _ w' hbehind with ⟨next', hreaches⟩
  exact ⟨next', w', hreaches⟩

end Finding

/-!
## The role and the media module together
-/

theorem none_live_of_resets {answers : SystemAnswers} {vars : Vars}
    (hprovider : vars.bootProvider = "ider_cdrom")
    (h : ResetsIntoConfirmedMedia answers vars) (haccepted : Accepted vars) :
    NoneLiveUnattached answers vars := by
  intro session record fields hlook hstatus
  have htrusted := haccepted.trusted (some session)
  rcases @AmtMedia.main_of_live _ _ 0 _ htrusted _ _ hlook hstatus with
    ⟨result, hresult, hfields⟩
  have hmedia : returnedOn answers (attachParams vars (some session))
      (TaskResult.ok result) := ⟨0, hresult⟩
  rcases reaches_arming haccepted hprovider hmedia with
    ⟨token, next, w, hreaches, hattached⟩
  rcases h none _ next w hreaches rfl with ⟨seen, hseen, hstate⟩
  rw [hattached] at hseen
  cases hseen
  rw [← hfields]
  exact hstate

/-- The role arms and resets into confirmed media exactly when no attach finds
a session alive that is anything but attached. -/
theorem resets_into_confirmed_media_iff (answers : SystemAnswers)
    (vars : Vars) (hprovider : vars.bootProvider = "ider_cdrom") :
    ResetsIntoConfirmedMedia answers vars ↔
      (Accepted vars -> NoneLiveUnattached answers vars) :=
  ⟨none_live_of_resets hprovider, resets_of_none_live hprovider⟩

/-- A host that boots from an image. -/
def imageVars : Vars :=
  { networkVars false with
    bootProvider := "ider_cdrom"
    isoPath := some "/srv/install.iso" }

/-- The operating system of a controller where the state file of a session
reads like this, and the process of the session is there. -/
def readsAs (file : Except FileError Bytes) : SystemAnswers
  | _, _, SystemOp.readFile _ => file
  | _, _, SystemOp.unlink _ => Except.ok ()
  | _, _, SystemOp.createExclusive _ _ => CreateResult.created
  | _, _, SystemOp.kill _ _ => KillResult.delivered
  | _, _, SystemOp.files => AmtMedia.emptyDisk
  | _, _, SystemOp.fork _ => ForkResult.started 100
  | _, position, SystemOp.monotonic => position
  | _, _, SystemOp.sleep _ => ()
  | _, _, SystemOp.now => "2024-01-01T00:00:00Z"
  | _, _, SystemOp.uuid => "s"
  | _, _, SystemOp.warn _ => ()

section Shown

variable {record : StateRecord} (hdumped : record.Dumped)

include hdumped

theorem play_readState_shown (params : AmtMedia.Params) (position : Nat)
    (session : String) :
    Script.play (readsAs (Except.ok (stateBytes record)) params) position
        (readState usualInterpreter "/run/amt" session) =
      (Except.ok (some (recordMembers record)), position + 1) := by
  rw [readState_eq, Script.play]
  exact congrArg (Script.play _ _) (parseRead_stateBytes hdumped _)

theorem firstLook_shown {position : Nat}
    (hlive : Script.play (readsAs (Except.ok (stateBytes record))
        (attachParams imageVars (some "s"))) 1
        (AmtMedia.liveSession (recordMembers record)) =
      (Except.ok true, position)) :
    (Script.play (readsAs (Except.ok (stateBytes record))
      (attachParams imageVars (some "s"))) 0
      (AmtMedia.firstLook (attachParams imageVars (some "s")))).1 =
        Except.ok (some (recordMembers record)) := by
  have hsession : AmtMedia.attachSession (attachParams imageVars (some "s")) =
      Script.returned "s" := by
    rfl
  rw [AmtMedia.firstLook, hsession, Script.returned_bind]
  refine (congrArg Prod.fst
    (Script.play_bind_ok (play_readState_shown hdumped _ 0 "s"))).trans ?_
  exact congrArg Prod.fst (Script.play_bind_ok hlive)

theorem firstLook_finds {session : String} {found : Members}
    (h : (Script.play (readsAs (Except.ok (stateBytes record))
      (attachParams imageVars (some session))) 0
      (AmtMedia.firstLook (attachParams imageVars (some session)))).1 =
        Except.ok (some found)) : found = recordMembers record := by
  rcases hplay : Script.play (readsAs (Except.ok (stateBytes record))
      (attachParams imageVars (some session))) 0
      (AmtMedia.firstLook (attachParams imageVars (some session))) with
    ⟨outcome, later⟩
  rw [hplay] at h
  have houtcome : outcome = Except.ok (some found) := h
  rw [houtcome] at hplay
  rcases Script.play_bind_split hplay with ⟨asked, next, _, hrest⟩
  rcases Script.play_bind_split hrest with ⟨existing, following, hread, hrest⟩
  have hshown := hread.symm.trans (play_readState_shown hdumped _ next asked)
  cases hshown
  rcases Script.play_bind_split hrest with ⟨live, last, _, hrest⟩
  cases live with
  | true =>
      cases hrest
      rfl
  | false => cases hrest

end Shown

/-- A session that is attached and alive. -/
def attachedRecord : StateRecord :=
  { initialState "s" "10.0.0.1:16994" 100 "2024-01-01T00:00:00Z" with
    state := SessionState.attached }

theorem attachedRecord_dumped : attachedRecord.Dumped where
  pid := by decide
  devices := fun entry h => by cases h

/-- Behind an attached session the role arms and resets. -/
theorem resets_into_attached :
    exists next w, (controller
        (returnedOn (readsAs (Except.ok (stateBytes attachedRecord))))).Reaches
        (main imageVars, World.start none)
        (Script.call (RoleOp.amtPower PowerAction.reset) next, w) ∧
      Confirmed (attachedAs w.log) := by
  have haccepted : Accepted imageVars := by
    constructor <;> decide
  have hnone : NoneLiveUnattached
      (readsAs (Except.ok (stateBytes attachedRecord))) imageVars := by
    intro session record fields hlook hstatus
    rw [firstLook_finds attachedRecord_dumped hlook] at hstatus
    cases hstatus
    rfl
  have hresets := (resets_into_confirmed_media_iff _ imageVars rfl).mpr
    fun _ => hnone
  have hlive : Script.play (readsAs (Except.ok (stateBytes attachedRecord))
      (attachParams imageVars (some "s"))) 1
      (AmtMedia.liveSession (recordMembers attachedRecord)) =
        (Except.ok true, 2) := by
    rfl
  have hlook := firstLook_shown attachedRecord_dumped hlive
  rcases @AmtMedia.main_of_live _ _ 0 _ (haccepted.trusted (some "s")) _ _
    hlook rfl with ⟨result, hresult, _⟩
  rcases @reaches_transition
    (returnedOn (readsAs (Except.ok (stateBytes attachedRecord)))) imageVars
    "s" result haccepted rfl ⟨0, hresult⟩ with ⟨next, w, hreaches⟩
  exact ⟨next, w, hreaches, hresets none _ next w hreaches rfl⟩

/-- The record of a daemon that has been forked and says nothing more yet. -/
def startingRecord : StateRecord :=
  initialState "s" "10.0.0.1:16994" 100 "2024-01-01T00:00:00Z"

theorem startingRecord_dumped : startingRecord.Dumped :=
  initialState_dumped (by decide) _ _ _

theorem firstLook_starting :
    (Script.play (readsAs (Except.ok (stateBytes startingRecord))
      (attachParams imageVars (some "s"))) 0
      (AmtMedia.firstLook (attachParams imageVars (some "s")))).1 =
        Except.ok (some (recordMembers startingRecord)) := by
  have hlive : Script.play (readsAs (Except.ok (stateBytes startingRecord))
      (attachParams imageVars (some "s"))) 1
      (AmtMedia.liveSession (recordMembers startingRecord)) =
        (Except.ok true, 2) := by
    rfl
  exact firstLook_shown startingRecord_dumped hlive

/-- A session whose daemon has not connected yet is taken for attached. -/
theorem starting_session_reset_into :
    ¬ forall (answers : SystemAnswers) (vars : Vars),
      vars.bootProvider = "ider_cdrom" ->
        ResetsIntoConfirmedMedia answers vars := by
  intro h
  have haccepted : Accepted imageVars := by
    constructor <;> decide
  have hnone := none_live_of_resets rfl
    (h (readsAs (Except.ok (stateBytes startingRecord))) imageVars rfl)
    haccepted
  have hattached := hnone "s" _ _ firstLook_starting rfl
  cases hattached

end BaremetalInstall
end IntelAmt
