import IntelAmt.AmtMedia.Module

/-!
# Calls that only look

Reading the state file, probing a process and waiting change nothing.
-/

namespace IntelAmt
namespace AmtMedia

open Foundation Ider MediaSession

/-- Operations that only look. -/
def Looks : SystemOp -> Prop
  | SystemOp.unlink _ => False
  | SystemOp.createExclusive _ _ => False
  | SystemOp.kill _ signal => signal = Signal.probe
  | SystemOp.fork _ => False
  | _ => True

theorem uses_ofResult {alpha : Type} (result : Except PyException alpha) :
    Script.Uses Looks (ofResult result) := by
  cases result <;> trivial

theorem uses_ofAmt {alpha : Type} (result : Except AmtError alpha) :
    Script.Uses Looks (ofAmt result) := by
  cases result <;> trivial

theorem uses_readState (interpreter : Interpreter) (dir session : String) :
    Script.Uses Looks (readState interpreter dir session) := by
  apply Script.uses_bind (Script.uses_ask trivial)
  intro raw
  rcases raw with e | raw
  · cases e <;> trivial
  · rw [parseRead]
    split <;> trivial

theorem uses_isNumberAlive (pid : Int) :
    Script.Uses Looks (isNumberAlive pid) := by
  unfold isNumberAlive
  split
  · trivial
  · apply Script.uses_bind
    · unfold osKill
      split
      · exact Script.uses_ask rfl
      · trivial
    · intro result
      cases result <;> trivial

theorem uses_isPidAlive (pid : Json) : Script.Uses Looks (isPidAlive pid) := by
  cases pid with
  | int pid => exact uses_isNumberAlive pid
  | bool value => exact uses_isNumberAlive _
  | float literal =>
      rw [isPidAlive]
      split <;> trivial
  | null | str _ | arr _ | obj _ => trivial

theorem uses_pollState (interpreter : Interpreter) (dir session : String)
    (settled : Members -> Bool) (deadline : Rat) (looks : Nat) :
    Script.Uses Looks
      (pollState interpreter dir session settled deadline looks) := by
  induction looks with
  | zero => trivial
  | succ looks ih =>
      apply Script.uses_bind (uses_readState interpreter dir session)
      intro observed
      split
      · trivial
      · apply Script.uses_bind (Script.uses_ask trivial)
        intro now
        split
        · trivial
        · exact Script.uses_bind (Script.uses_ask trivial) fun _ => ih

theorem uses_waitForState (interpreter : Interpreter) (dir session : String)
    (settled : Members -> Bool) (timeout : Rat) (looks : Nat) :
    Script.Uses Looks
      (waitForState interpreter dir session settled timeout looks) :=
  Script.uses_bind (Script.uses_ask trivial) fun _ =>
    uses_pollState interpreter dir session settled _ looks

theorem uses_pollExit (pid : Json) (deadline : Rat) (looks : Nat) :
    Script.Uses Looks (pollExit pid deadline looks) := by
  induction looks with
  | zero => trivial
  | succ looks ih =>
      apply Script.uses_bind (uses_isPidAlive pid)
      intro alive
      split
      · apply Script.uses_bind (Script.uses_ask trivial)
        intro now
        split
        · trivial
        · exact Script.uses_bind (Script.uses_ask trivial) fun _ => ih
      · trivial

theorem uses_waitForExit (pid : Json) (timeout : Rat) (looks : Nat) :
    Script.Uses Looks (waitForExit pid timeout looks) :=
  Script.uses_bind (Script.uses_ask trivial) fun _ =>
    uses_pollExit pid _ looks

theorem uses_validateMediaSpecs (allowedDirectory : Option String)
    (specs : List MediaSpec) :
    Script.Uses Looks (validateMediaSpecs allowedDirectory specs) := by
  induction specs with
  | nil => trivial
  | cons spec specs ih =>
      apply Script.uses_bind (Script.uses_ask trivial)
      intro fs
      split
      · trivial
      · exact ih

theorem uses_failExited (params : Params) (session : String)
    (observed : Option Members) (fields : StatusFields) :
    Script.Uses Looks (failExited params session observed fields) :=
  Script.uses_bind (uses_readState _ _ _) fun _ =>
    Script.uses_bind (uses_ofResult _) fun _ => trivial

theorem uses_verdict (params : Params) (endpoint session : String)
    (observed : Option Members) (fields : StatusFields) :
    Script.Uses Looks (verdict params endpoint session observed fields) := by
  unfold verdict
  split
  · trivial
  · split
    · trivial
    · apply Script.uses_bind (uses_isPidAlive _)
      intro alive
      split
      · apply Script.uses_bind (uses_ofResult _)
        intro terminal
        split <;> trivial
      · exact uses_failExited _ _ _ _

theorem uses_reported (result : Except PyException StatusFields)
    (report : StatusFields -> ModuleResult) :
    Script.Uses Looks
      (ofResult result >>= fun fields => pure (report fields)) :=
  Script.uses_bind (uses_ofResult _) fun _ => trivial

theorem uses_attachedResult (endpoint session : String)
    (existing : Members) :
    Script.Uses Looks (attachedResult endpoint session existing) :=
  uses_reported _ _

end AmtMedia
end IntelAmt
