import IntelAmt.BaremetalInstall.Role
import IntelAmt.Foundation.Traces

/-!
# Runs of the role

Runs against one host, one after the other.  A run may be cut off between any
two tasks, every task may fail, and the modules may answer what they like.
The facts of a run are gone with it; the state file stays.
-/

namespace IntelAmt
namespace BaremetalInstall

open Foundation MediaSession

/-- What happens to the endpoint and to the state file, in order. -/
inductive Event where
  | started (forceResume : Bool)
  | armed
  | powered
  | attached (sessionState : Json)
  | saved (state : RunState)

/-- The fact, the state file, and what has happened. -/
structure World where
  runState : Option RunState
  disk : Option RunState
  log : List Event

def World.start (disk : Option RunState) : World where
  runState := none
  disk := disk
  log := []

def World.happens (w : World) (event : Event) : World :=
  { w with log := w.log ++ [event] }

/-!
## Reading the log
-/

/-- A save that confirms the reset, or a start that the operator has
acknowledged. -/
def Event.releases : Event -> Bool
  | started forceResume => forceResume
  | saved state => state.resetConfirmed
  | _ => false

def Event.isArmed : Event -> Bool
  | armed => true
  | _ => false

def Event.isPowered : Event -> Bool
  | powered => true
  | _ => false

def Event.isStarted : Event -> Bool
  | started _ => true
  | _ => false

/-- Whether something was issued and nothing has released it since. -/
abbrev outstanding (issued : Event -> Bool) (log : List Event) : Bool :=
  pending issued Event.releases log

/-- Whether something was issued since the run has started. -/
abbrev inThisRun (issued : Event -> Bool) (log : List Event) : Bool :=
  pending issued Event.isStarted log

/-- Whether boot was armed and no armed state was saved since. -/
def unrecorded (log : List Event) : Bool :=
  log.foldl
    (fun open_ event =>
      match event with
      | Event.armed => true
      | Event.saved state => open_ && !state.bootArmed
      | _ => open_)
    false

/-- What the attach of this run has returned as the state of its session. -/
def attachedAs (log : List Event) : Option Json :=
  log.foldl
    (fun seen event =>
      match event with
      | Event.started _ => none
      | Event.attached sessionState => some sessionState
      | _ => seen)
    none

/-!
## The machine
-/

/-- The operations that change nothing here. -/
def silent : RoleOp -> Bool
  | RoleOp.task _ => true
  | RoleOp.lookupPassword _ => true
  | RoleOp.now => true
  | RoleOp.amtInfo => true
  | RoleOp.amtRedirection => true
  | RoleOp.amtPowerQuery => true
  | RoleOp.waitFor => true
  | _ => false

/-- What a task does.  `media` tells what the media module can return. -/
inductive Perform
    (media : AmtMedia.Params -> TaskResult AmtMedia.ModuleResult -> Prop) :
    World -> (o : RoleOp) -> RoleAnswer o -> World -> Prop where
  | started {w : World} (forceResume : Bool) :
      Perform media w (RoleOp.started forceResume) ()
        ({ w with runState := none }.happens (Event.started forceResume))
  | quiet {w : World} {o : RoleOp} (a : RoleAnswer o)
      (hsilent : silent o = true) : Perform media w o a w
  | stat {w : World} :
      Perform media w RoleOp.stat (TaskResult.ok w.disk.isSome) w
  | statFails {w : World} (result : FailedResult) :
      Perform media w RoleOp.stat (TaskResult.failed result) w
  | includes {w : World} {state : RunState} (hdisk : w.disk = some state) :
      Perform media w RoleOp.includeVars (TaskResult.ok state) w
  | includeFails {w : World} (result : FailedResult) :
      Perform media w RoleOp.includeVars (TaskResult.failed result) w
  | reads {w : World} : Perform media w RoleOp.runState w.runState w
  | sets {w : World} (name : String) (state : RunState) :
      Perform media w (RoleOp.setRunState name state) (TaskResult.ok ())
        { w with runState := some state }
  | setFails {w : World} {name : String} {state : RunState}
      (result : FailedResult) :
      Perform media w (RoleOp.setRunState name state)
        (TaskResult.failed result) w
  | saves {w : World} (state : RunState) :
      Perform media w (RoleOp.saveState state) (TaskResult.ok ())
        ({ w with disk := some state }.happens (Event.saved state))
  | saveFails {w : World} {state : RunState} (result : FailedResult) :
      Perform media w (RoleOp.saveState state) (TaskResult.failed result) w
  | attaches {w : World} {params : AmtMedia.Params}
      {result : AmtMedia.ModuleResult}
      (hattached : params.state = AmtMedia.DesiredState.attached)
      (hmedia : media params (TaskResult.ok result)) :
      Perform media w (RoleOp.amtMedia params) (TaskResult.ok result)
        (w.happens (Event.attached result.fields.sessionState))
  | detaches {w : World} {params : AmtMedia.Params}
      {result : AmtMedia.ModuleResult}
      (hdetached : params.state = AmtMedia.DesiredState.detached)
      (hmedia : media params (TaskResult.ok result)) :
      Perform media w (RoleOp.amtMedia params) (TaskResult.ok result) w
  | mediaFails {w : World} {params : AmtMedia.Params}
      {result : FailedResult} (hmedia : media params (TaskResult.failed result)) :
      Perform media w (RoleOp.amtMedia params) (TaskResult.failed result) w
  | arms {w : World} {device token : String} (outcome : TaskResult Unit) :
      Perform media w (RoleOp.amtBoot device token) outcome
        (w.happens Event.armed)
  | powers {w : World} {action : PowerAction} (outcome : TaskResult Unit) :
      Perform media w (RoleOp.amtPower action) outcome
        (w.happens Event.powered)

/-- Nothing happens between the tasks. -/
def controller
    (media : AmtMedia.Params -> TaskResult AmtMedia.ModuleResult -> Prop) :
    Machine RoleOp RoleAnswer World where
  perform := Perform media
  background _ _ := False

/-- The media module may return anything. -/
def anyMedia (_ : AmtMedia.Params)
    (_ : TaskResult AmtMedia.ModuleResult) : Prop := True

/-- The runs of the role against one host. -/
def runs (host : String) (x : RoleScript Unit) : Prop :=
  exists vars : Vars, vars.host = host ∧ x = main vars

end BaremetalInstall
end IntelAmt
