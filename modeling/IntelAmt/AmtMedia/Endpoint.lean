import IntelAmt.AmtMedia.Module

/-!
# One session and its processes

What the calls of the media module for one session find and change: the state
file and the daemons that they have forked.  The daemons go on by themselves
between any two operations of a call: they write records, the last of them a
terminal one, they take their time to close what they hold, and they end when
they like, whether they were asked to stop or not.
-/

namespace IntelAmt
namespace AmtMedia

open Foundation Ider MediaSession

inductive DaemonPhase where
  | serving
  /-- the terminal record is written, the images and the socket are not closed
  yet -/
  | closing
  | dead
deriving DecidableEq, Repr

structure DaemonProcess where
  pid : Nat
  phase : DaemonPhase
deriving DecidableEq, Repr

def DaemonProcess.alive (daemon : DaemonProcess) : Prop :=
  daemon.phase ≠ DaemonPhase.dead

/-- The state file, every daemon that was ever forked, and the pids that were
sent SIGTERM. -/
structure World where
  file : Option StateRecord
  daemons : List DaemonProcess
  asked : List Int

def World.start (file : Option StateRecord) : World where
  file := file
  daemons := []
  asked := []

def World.AllDead (w : World) : Prop :=
  forall daemon, daemon ∈ w.daemons -> ¬ daemon.alive

/-- What the daemons do by themselves. -/
inductive DaemonStep : World -> World -> Prop where
  | persists {w : World} {before after : List DaemonProcess}
      {daemon : DaemonProcess} {record : StateRecord}
      (hdaemons : w.daemons = before ++ daemon :: after)
      (hserving : daemon.phase = DaemonPhase.serving)
      (hpid : record.pid = daemon.pid)
      (hlive : record.state.terminal = false) :
      DaemonStep w { w with file := some record }
  | settles {w : World} {before after : List DaemonProcess}
      {daemon : DaemonProcess} {record : StateRecord}
      (hdaemons : w.daemons = before ++ daemon :: after)
      (hserving : daemon.phase = DaemonPhase.serving)
      (hpid : record.pid = daemon.pid)
      (hterminal : record.state.terminal = true) :
      DaemonStep w
        { w with
          file := some record
          daemons :=
            before ++ { daemon with phase := DaemonPhase.closing } :: after }
  | dies {w : World} {before after : List DaemonProcess}
      {daemon : DaemonProcess}
      (hdaemons : w.daemons = before ++ daemon :: after) :
      DaemonStep w
        { w with
          daemons :=
            before ++ { daemon with phase := DaemonPhase.dead } :: after }

section Session

variable (runtimeDir sessionId : String)

/-- The operations that neither read nor change the session, and those of
other sessions. -/
def foreign : SystemOp -> Bool
  | SystemOp.readFile file => file ≠ SessionFile.state runtimeDir sessionId
  | SystemOp.unlink file => file ≠ SessionFile.state runtimeDir sessionId
  | SystemOp.createExclusive file _ =>
      file ≠ SessionFile.state runtimeDir sessionId
  | SystemOp.kill _ _ => false
  | SystemOp.fork config =>
      config.runtimeDir ≠ runtimeDir || config.sessionId ≠ sessionId
  | _ => true

/-- What the operating system does for a call. -/
inductive Perform : World -> (o : SystemOp) -> SystemAnswer o -> World ->
    Prop where
  | unrelated {w : World} {o : SystemOp} (a : SystemAnswer o)
      (hforeign : foreign runtimeDir sessionId o = true) : Perform w o a w
  | readMissing {w : World} (hfile : w.file = none) :
      Perform w (SystemOp.readFile (SessionFile.state runtimeDir sessionId))
        (Except.error FileError.notFound) w
  | read {w : World} {record : StateRecord} (hfile : w.file = some record)
      (hdumped : record.Dumped) :
      Perform w (SystemOp.readFile (SessionFile.state runtimeDir sessionId))
        (Except.ok (stateBytes record)) w
  | readFails {w : World} :
      Perform w (SystemOp.readFile (SessionFile.state runtimeDir sessionId))
        (Except.error FileError.os) w
  | unlinkMissing {w : World} (hfile : w.file = none) :
      Perform w (SystemOp.unlink (SessionFile.state runtimeDir sessionId))
        (Except.error FileError.notFound) w
  | unlinks {w : World} (hfile : w.file ≠ none) :
      Perform w (SystemOp.unlink (SessionFile.state runtimeDir sessionId))
        (Except.ok ()) { w with file := none }
  | unlinkFails {w : World} :
      Perform w (SystemOp.unlink (SessionFile.state runtimeDir sessionId))
        (Except.error FileError.os) w
  | creates {w : World} {record : StateRecord} (hfile : w.file = none) :
      Perform w
        (SystemOp.createExclusive (SessionFile.state runtimeDir sessionId)
          record)
        CreateResult.created { w with file := some record }
  | exists {w : World} {record : StateRecord} (hfile : w.file ≠ none) :
      Perform w
        (SystemOp.createExclusive (SessionFile.state runtimeDir sessionId)
          record)
        CreateResult.exists w
  /-- a daemon that is there is found; any other process may be there -/
  | probes {w : World} {pid : Int} (result : KillResult)
      (hfound : forall daemon, daemon ∈ w.daemons -> daemon.alive ->
        (daemon.pid : Int) = pid -> result ≠ KillResult.noSuchProcess) :
      Perform w (SystemOp.kill pid Signal.probe) result w
  | signals {w : World} {pid : Int} (result : KillResult)
      (hfound : forall daemon, daemon ∈ w.daemons -> daemon.alive ->
        (daemon.pid : Int) = pid -> result ≠ KillResult.noSuchProcess) :
      Perform w (SystemOp.kill pid Signal.sigterm) result
        { w with asked := pid :: w.asked }
  | forkFails {w : World} {config : SessionConfig} {result : ForkResult}
      (hresult : forall pid, result ≠ ForkResult.started pid) :
      Perform w (SystemOp.fork config) result w
  /-- a pid is free and not 0 when a process gets it -/
  | forks {w : World} {config : SessionConfig} {pid : Nat}
      (hdir : config.runtimeDir = runtimeDir)
      (hsession : config.sessionId = sessionId) (hpositive : 0 < pid)
      (hfree : forall daemon, daemon ∈ w.daemons -> daemon.alive ->
        daemon.pid ≠ pid) :
      Perform w (SystemOp.fork config) (ForkResult.started pid)
        { w with
          daemons :=
            w.daemons ++ [{ pid := pid, phase := DaemonPhase.serving }] }

def system : Machine SystemOp SystemAnswer World where
  perform := Perform runtimeDir sessionId
  background := DaemonStep

/-- The calls of the module for the session. -/
def calls (x : MediaScript ModuleResult) : Prop :=
  exists looks params, params.runtimeDir = runtimeDir ∧
    given params.sessionId = some sessionId ∧ x = main looks params

end Session
end AmtMedia
end IntelAmt
