import IntelAmt.AmtModules.Mains
import IntelAmt.Wsman.Posts

/-!
# Module boundaries

Which modules hand a refused trust policy to their caller as a classified
failure, and for which options the others let it through.
-/

namespace IntelAmt
namespace AmtModules

open Foundation Wsman
open MediaSession (FailResult Raised jsonText)

/-!
## Clients that are built
-/

section Building

variable {alpha : Type} {options : ConnectionOptions}

theorem reported_raises {x : WsmanScript (ModuleEnd alpha)}
    (h : Script.Raises NotAmt x) : Script.Raises NotAmt (reported x) :=
  Script.raises_bind h fun _ => trivial

theorem buildingInside_raises (body : ClientSetup -> WsmanScript alpha) :
    Script.Raises NotAmt (buildingInside options body) :=
  reported_raises (caught_raises _)

theorem buildingInside_refused {body : ClientSetup -> WsmanScript alpha}
    {error : AmtError}
    (h : fromConnectionOptions options = Except.error error) :
    buildingInside options body =
      Script.returned (MainEnd.failJson error) := by
  rw [buildingInside, h]
  rfl

theorem buildingInFront_refused
    {body : ClientSetup -> WsmanScript (ModuleEnd alpha)} {error : AmtError}
    (h : fromConnectionOptions options = Except.error error) :
    buildingInFront options body = raiseAmt error := by
  rw [buildingInFront, h]
  rfl

theorem buildingInFront_raises_iff
    {body : ClientSetup -> WsmanScript (ModuleEnd alpha)}
    (hbody : forall setup, Script.Raises NotAmt (body setup)) :
    Script.Raises NotAmt (buildingInFront options body) ↔
      options.Usable := by
  constructor
  · intro h
    by_contra hnot
    rcases fromConnectionOptions_refused hnot with ⟨error, herror, _⟩
    rw [buildingInFront_refused herror] at h
    exact h
  · intro h
    rcases fromConnectionOptions_ok_iff.mpr h with ⟨setup, hsetup⟩
    rw [buildingInFront, hsetup]
    exact reported_raises (hbody setup)

end Building

/-!
## Boundaries
-/

/-- The module gets as far as building its client. -/
def ManagementCall.Builds : ManagementCall -> Prop
  | eventLog maxRecords _ => 1 ≤ maxRecords
  | _ => True

/-- No failure of the collection escapes, and a client that cannot be built
ends the module with its failure. -/
structure ManagementCall.Classified (call : ManagementCall)
    (options : ConnectionOptions) (pulls rounds : Nat) : Prop where
  caught : Script.Raises NotAmt (call.main options pulls rounds)
  refused : call.Builds -> forall error,
    fromConnectionOptions options = Except.error error ->
      call.main options pulls rounds =
        Script.returned (MainEnd.failJson error)

/-- No failure of the collection escapes; every one ends the module with a
result that names its class. -/
structure MediaClassified (looks : Nat) (params : AmtMedia.Params) :
    Prop where
  caught : Script.Raises (fun e => forall error, e ≠ Raised.amt error)
    (AmtMedia.main looks params)
  reported : forall log error,
    Script.After (AmtMedia.operate looks params) log
        (Script.raised (Raised.amt error)) ->
      exists result : FailResult,
        Script.After (AmtMedia.main looks params) log
          (AmtMedia.failJson result) ∧
        result.errorClass = jsonText error.errorClass.name

theorem media_classified (looks : Nat) (params : AmtMedia.Params) :
    MediaClassified looks params where
  caught := by
    apply Script.raises_handle
    intro e
    cases e with
    | amt error => exact fun _ h => nomatch h
    | failJson result => exact fun _ h => nomatch h
    | exception e => exact fun _ h => nomatch h
    | waiting => exact fun _ h => nomatch h
  reported log error h :=
    ⟨AmtMedia.resultOf error, Script.after_handled h, rfl⟩

section Calls

variable {options : ConnectionOptions} {pulls rounds : Nat}

theorem classified_inside {call : ManagementCall}
    (hboot : call.moduleName ≠ "amt_boot")
    (hredirection : call.moduleName ≠ "amt_redirection") :
    call.Classified options pulls rounds := by
  cases call with
  | boot device actionToken checkMode => exact absurd rfl hboot
  | redirection desired checkMode => exact absurd rfl hredirection
  | power state checkMode =>
      exact ⟨buildingInside_raises _, fun _ _ => buildingInside_refused⟩
  | info gatherSubset =>
      exact ⟨buildingInside_raises _, fun _ _ => buildingInside_refused⟩
  | logClear confirmDestructive checkMode =>
      exact ⟨buildingInside_raises _, fun _ _ => buildingInside_refused⟩
  | eventLog maxRecords severities =>
      constructor
      · rw [ManagementCall.main, eventLogMain]
        split
        · trivial
        · exact buildingInside_raises _
      · intro hbuilds error herror
        have hmax : ¬ maxRecords < 1 := not_lt.mpr hbuilds
        rw [ManagementCall.main, eventLogMain, if_neg hmax]
        exact buildingInside_refused herror

theorem classified_inFront_iff {call : ManagementCall}
    (h : call.moduleName = "amt_boot" ∨
      call.moduleName = "amt_redirection") :
    call.Classified options pulls rounds ↔ options.Usable := by
  have hraises : Script.Raises NotAmt (call.main options pulls rounds) ↔
      options.Usable := by
    cases call with
    | boot device actionToken checkMode =>
        exact buildingInFront_raises_iff fun _ => caught_raises _
    | redirection desired checkMode =>
        exact buildingInFront_raises_iff fun _ => caught_raises _
    | _ => simp [ManagementCall.moduleName] at h
  constructor
  · exact fun hclassified => hraises.mp hclassified.caught
  · intro husable
    refine ⟨hraises.mpr husable, ?_⟩
    intro _ error herror
    rcases fromConnectionOptions_ok_iff.mpr husable with ⟨setup, hsetup⟩
    rw [hsetup] at herror
    cases herror

end Calls

/-- A call of any module of the collection, without its connection
options. -/
inductive ModuleCall where
  | management (call : ManagementCall)
  | media (params : AmtMedia.Params)

def ModuleCall.moduleName : ModuleCall -> String
  | management call => call.moduleName
  | media _ => "amt_media"

/-- Every failure over the connection options is classified. -/
def ModuleCall.Classified (call : ModuleCall) (options : ConnectionOptions)
    (pulls rounds looks : Nat) : Prop :=
  match call with
  | management call => call.Classified options pulls rounds
  | media params => MediaClassified looks (mediaParams options params)

/-- Two modules build their client in front of the `try`: there the failures
over the connection options are classified exactly when there are none. -/
theorem connection_errors_classified_iff (call : ModuleCall)
    (options : ConnectionOptions) (pulls rounds looks : Nat) :
    call.Classified options pulls rounds looks ↔
      (call.moduleName = "amt_boot" ∨
          call.moduleName = "amt_redirection" -> options.Usable) := by
  cases call with
  | media params =>
      constructor
      · intro _ h
        simp [ModuleCall.moduleName] at h
      · exact fun _ => media_classified looks _
  | management call =>
      by_cases h : call.moduleName = "amt_boot" ∨
          call.moduleName = "amt_redirection"
      · exact (classified_inFront_iff h).trans
          ⟨fun husable _ => husable, fun husable => husable h⟩
      · rw [not_or] at h
        constructor
        · exact fun _ hname => absurd hname (not_or.mpr h)
        · exact fun _ => classified_inside h.1 h.2

/-- Plaintext that is not asked for, at a module that arms a boot. -/
theorem plaintext_boot_not_classified :
    ¬ forall (call : ModuleCall) (options : ConnectionOptions)
        (pulls rounds looks : Nat),
      call.Classified options pulls rounds looks := by
  intro h
  have hboot := h
    (ModuleCall.management
      (ManagementCall.boot "pxe" (some "first attempt") false))
    { host := "192.0.2.10", useTls := false } 1 1 1
  exact hboot.caught

end AmtModules
end IntelAmt
