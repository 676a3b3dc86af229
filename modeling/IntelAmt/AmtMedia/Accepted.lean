import IntelAmt.AmtMedia.Looking

/-!
# Accepted parameters

A daemon is only ever forked with the configuration of parameters that both
policies have let through.
-/

namespace IntelAmt
namespace AmtMedia

open Foundation Ider MediaSession

/-- The configuration is one that the module makes of the parameters. -/
def Accepts (params : Params) (config : SessionConfig) : Prop :=
  Tls.enforceTransportPolicy params.useTls params.allowInsecureTransport =
      Except.ok () ∧
    enforceRedirectionTrustPolicy params = Except.ok () ∧
    exists sessionId port specs,
      buildSessionConfig params sessionId port specs = Except.ok config

def ForksAccepted (params : Params) : SystemOp -> Prop
  | SystemOp.fork config => Accepts params config
  | _ => True

variable {params : Params}

theorem forksAccepted_of_looks {alpha : Type} {x : MediaScript alpha}
    (hx : Script.Uses Looks x) : Script.Uses (ForksAccepted params) x := by
  refine Script.uses_mono hx fun o ho => ?_
  cases o with
  | fork config => exact ho.elim
  | _ => trivial

theorem forks_removeState (dir session : String) :
    Script.Uses (ForksAccepted params) (removeState dir session) := by
  have hunlink : forall file,
      Script.Uses (ForksAccepted params) (unlinkIfThere file) := by
    intro file
    refine Script.uses_bind (Script.uses_ask trivial) fun result => ?_
    rcases result with e | _
    · cases e <;> trivial
    · trivial
  exact Script.uses_bind (hunlink _) fun _ => hunlink _

theorem forks_requestStop (pid : Json) :
    Script.Uses (ForksAccepted params) (requestStop pid) := by
  have hstop : forall pid,
      Script.Uses (ForksAccepted params) (requestStop.stopNumber pid) := by
    intro pid
    unfold requestStop.stopNumber
    split
    · trivial
    · apply Script.uses_bind
      · unfold osKill
        split
        · exact Script.uses_ask trivial
        · trivial
      · intro result
        cases result <;> trivial
  unfold requestStop
  split
  · exact hstop _
  · exact hstop _
  · trivial
  · split <;> trivial
  · trivial

theorem forks_spawnSession {config : SessionConfig}
    (h : Accepts params config) :
    Script.Uses (ForksAccepted params) (spawnSession config) := by
  refine ⟨h, fun forked => ?_⟩
  cases forked with
  | started pid =>
      refine ⟨trivial, fun now => ⟨trivial, fun result => ?_⟩⟩
      cases result <;> trivial
  | unsupported => trivial
  | failed => trivial
  | silent => trivial

section Attach

variable (htransport :
  Tls.enforceTransportPolicy params.useTls params.allowInsecureTransport =
    Except.ok ())
variable (htrust : enforceRedirectionTrustPolicy params = Except.ok ())
include htransport htrust

theorem forks_startSession (looks : Nat) (endpoint session : String)
    (port : Int) (specs : List MediaSpec) (existing : Option Members)
    (recoveredStale : Bool) :
    Script.Uses (ForksAccepted params)
      (startSession looks params endpoint session port specs existing
        recoveredStale) := by
  unfold startSession
  cases hconfig : buildSessionConfig params session port specs with
  | error e => trivial
  | ok config =>
      apply Script.uses_bind (forks_spawnSession
        ⟨htransport, htrust, session, port, specs, hconfig⟩)
      intro _
      apply forksAccepted_of_looks
      apply Script.uses_bind (uses_ofResult _)
      intro timeout
      apply Script.uses_bind (uses_waitForState _ _ _ _ _ _)
      intro observed
      apply Script.uses_bind (uses_ofResult _)
      intro fields
      exact Script.uses_bind (uses_verdict _ _ _ _ _) fun _ => trivial

theorem forks_attachFresh (looks : Nat) (endpoint session : String)
    (port : Int) (existing : Option Members) :
    Script.Uses (ForksAccepted params)
      (attachFresh looks params endpoint session port existing) := by
  unfold attachFresh
  apply Script.uses_bind (forksAccepted_of_looks (uses_ofAmt _))
  intro specs
  apply Script.uses_bind (forksAccepted_of_looks
    (uses_validateMediaSpecs _ specs))
  intro _
  split
  · trivial
  · exact forks_startSession htransport htrust looks endpoint session port
      specs existing _

theorem forks_attach (looks : Nat) (endpoint : String) (port : Int) :
    Script.Uses (ForksAccepted params)
      (attach looks params endpoint port) := by
  unfold attach
  apply Script.uses_bind
  · unfold attachSession
    split
    · trivial
    · exact Script.uses_ask trivial
  · intro session
    apply Script.uses_bind (forksAccepted_of_looks (uses_readState _ _ _))
    intro existing
    cases existing with
    | none => exact forks_attachFresh htransport htrust looks _ _ _ _
    | some record =>
        dsimp only
        apply Script.uses_bind
        · apply forksAccepted_of_looks
          apply Script.uses_bind (uses_isPidAlive _)
          intro alive
          split
          · exact Script.uses_bind (uses_ofResult _) fun _ => trivial
          · trivial
        · intro live
          split
          · exact forksAccepted_of_looks (uses_attachedResult _ _ _)
          · exact Script.uses_bind (forks_removeState _ _) fun _ =>
              forks_attachFresh htransport htrust looks _ _ _ _

end Attach

theorem forks_detach (looks : Nat) (endpoint session : String) :
    Script.Uses (ForksAccepted params)
      (detach looks params endpoint session) := by
  unfold detach
  apply Script.uses_bind (forksAccepted_of_looks (uses_readState _ _ _))
  intro existing
  cases existing with
  | none => exact forksAccepted_of_looks (uses_reported _ _)
  | some record =>
      dsimp only
      apply Script.uses_bind (forksAccepted_of_looks (uses_isPidAlive _))
      intro live
      split
      · exact forksAccepted_of_looks (uses_reported _ _)
      · split
        · unfold stopSession
          apply Script.uses_bind (forks_requestStop _)
          intro _
          apply Script.uses_bind (forksAccepted_of_looks (uses_ofResult _))
          intro timeout
          apply Script.uses_bind
            (forksAccepted_of_looks (uses_waitForExit _ _ _))
          intro exited
          apply Script.uses_bind (forksAccepted_of_looks (uses_readState _ _ _))
          intro last
          apply Script.uses_bind (forks_removeState _ _)
          intro _
          apply Script.uses_bind
          · unfold warnUnlessExited
            split
            · trivial
            · exact Script.uses_ask trivial
          · exact fun _ => forksAccepted_of_looks (uses_reported _ _)
        · exact Script.uses_bind (forks_removeState _ _) fun _ =>
            forksAccepted_of_looks (uses_reported _ _)

theorem main_forksAccepted (looks : Nat) (params : Params) :
    Script.Uses (ForksAccepted params) (main looks params) := by
  apply Script.uses_handle
  · unfold operate
    dsimp only
    split
    · cases htransport : Tls.enforceTransportPolicy params.useTls
          params.allowInsecureTransport with
      | error e => trivial
      | ok _ =>
          cases htrust : enforceRedirectionTrustPolicy params with
          | error e => trivial
          | ok _ => exact forks_attach htransport htrust looks _ _
    · exact forks_detach looks _ _
  · intro e
    cases e <;> trivial

end AmtMedia
end IntelAmt
