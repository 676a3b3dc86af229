import IntelAmt.Errors
import IntelAmt.Foundation.Dict
import IntelAmt.Ider.MediaImage

/-!
# The state record of a media session

What the daemon writes to its state file, and nothing else leaves the daemon.
Every writer of a session's first record builds it with `initialState`.
-/

namespace IntelAmt
namespace MediaSession

open Foundation Ider

inductive SessionState where
  | starting
  | connecting
  | attached
  | detached
  | error
deriving DecidableEq, Repr

namespace SessionState

def name : SessionState -> String
  | starting => "starting"
  | connecting => "connecting"
  | attached => "attached"
  | detached => "detached"
  | error => "error"

/-- The states that a live daemon never leaves again. -/
def terminal : SessionState -> Bool
  | detached => true
  | error => true
  | _ => false

end SessionState

structure DeviceRecord where
  path : String
  device : String
  writable : Bool
  size : Nat
  bytesRead : Nat
  bytesWritten : Nat
deriving DecidableEq, Repr

def slotName : DeviceCode -> String
  | DeviceCode.cdrom => "cdrom"
  | DeviceCode.floppy => "floppy"

def deviceState (image : MediaImage) : DeviceRecord where
  path := pathText image.path
  device := slotName image.deviceCode
  writable := image.writable
  size := image.size
  bytesRead := image.bytesRead
  bytesWritten := image.bytesWritten

structure StateRecord where
  sessionId : String
  pid : Nat
  endpoint : String
  state : SessionState
  error : Option String
  errorClass : Option ErrorClass
  tlsPeerFingerprint : Option String
  devices : Dict DeviceCode DeviceRecord
  startedAt : String
  updatedAt : String
deriving DecidableEq, Repr

def initialState (sessionId endpoint : String) (pid : Nat) (now : String) :
    StateRecord where
  sessionId := sessionId
  pid := pid
  endpoint := endpoint
  state := SessionState.starting
  error := none
  errorClass := none
  tlsPeerFingerprint := none
  devices := Dict.empty
  startedAt := now
  updatedAt := now

end MediaSession
end IntelAmt
