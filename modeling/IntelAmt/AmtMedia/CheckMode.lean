import IntelAmt.AmtMedia.Ownership
import IntelAmt.Foundation.Worlds

/-!
# Check mode and rejected media

What a call leaves behind that runs in check mode, or whose media options are
rejected: the files of the runtime directory and the processes.
-/

namespace IntelAmt
namespace AmtMedia

open Foundation Ider MediaSession

/-- A controller at one moment: the runtime directory, the answers of the
processes to a probe, and the disk with the media; `forked` and `signalled`
tell what was done to processes.  Nothing that is considered here waits, so
the clock stands still. -/
structure Controller where
  files : SessionFile -> Except FileError Bytes
  processes : Int -> KillResult
  disk : Filesystem
  uuid : String
  clock : Rat := 0
  now : String := ""
  forkResult : ForkResult := ForkResult.unsupported
  forked : List SessionConfig := []
  signalled : List Int := []

/-- Remove a file; what cannot be read cannot be removed either. -/
def Controller.unlink (c : Controller) (file : SessionFile) :
    Except FileError Unit × Controller :=
  match c.files file with
  | Except.error e => (Except.error e, c)
  | Except.ok _ =>
      (Except.ok (),
        { c with
          files := Function.update c.files file
            (Except.error FileError.notFound) })

def Controller.createExclusive (c : Controller) (file : SessionFile)
    (record : StateRecord) : CreateResult × Controller :=
  match c.files file with
  | Except.ok _ => (CreateResult.exists, c)
  | Except.error FileError.os => (CreateResult.failed, c)
  | Except.error FileError.notFound =>
      (CreateResult.created,
        { c with
          files := Function.update c.files file
            (Except.ok (stateBytes record)) })

def Controller.kill (c : Controller) (pid : Int) :
    Signal -> KillResult × Controller
  | Signal.probe => (c.processes pid, c)
  | Signal.sigterm =>
      (c.processes pid, { c with signalled := c.signalled ++ [pid] })

def perform (c : Controller) : (o : SystemOp) -> SystemAnswer o × Controller
  | SystemOp.readFile file => (c.files file, c)
  | SystemOp.unlink file => c.unlink file
  | SystemOp.createExclusive file record => c.createExclusive file record
  | SystemOp.kill pid signal => c.kill pid signal
  | SystemOp.files => (c.disk, c)
  | SystemOp.fork config =>
      (c.forkResult, { c with forked := c.forked ++ [config] })
  | SystemOp.monotonic => (c.clock, c)
  | SystemOp.sleep _ => ((), c)
  | SystemOp.now => (c.now, c)
  | SystemOp.uuid => (c.uuid, c)
  | SystemOp.warn _ => ((), c)

/-- The files are as they were, no process was spawned and none signalled. -/
structure Unaffected (c c' : Controller) : Prop where
  files : c'.files = c.files
  forked : c'.forked = c.forked
  signalled : c'.signalled = c.signalled

/-- What the module leaves behind. -/
def Controller.after (c : Controller) (looks : Nat) (params : Params) :
    Controller :=
  (Script.carry perform c (main looks params)).2

/-- The media options are rejected, by themselves or when the media are
opened. -/
def RejectsMedia (params : Params) (disk : Filesystem) : Prop :=
  match buildMediaSpecs params with
  | Except.error _ => True
  | Except.ok specs => exists spec, spec ∈ specs ∧
      exists e, MediaImage.openImage disk spec.path spec.deviceCode
        spec.writable params.allowedDirectory = Except.error e

/-- A call in check mode, or an attach whose media options are rejected. -/
def Quiet (params : Params) (disk : Filesystem) : Prop :=
  params.checkMode = true ∨
    params.state = DesiredState.attached ∧ RejectsMedia params disk

/-- The record that an attach finds. -/
def Controller.found (c : Controller) (params : Params) :
    Except Raised (Option Members) :=
  (Script.carry perform c
    (readState params.interpreter params.runtimeDir
      ((given params.sessionId).getD c.uuid))).1

/-- The record that an attach finds is not of a live session: its process is
gone, or its state is a terminal one. -/
def Controller.FindsStale (c : Controller) (params : Params) : Prop :=
  exists record, c.found params = Except.ok (some record) ∧
    (Script.carry perform c (liveSession record)).1 = Except.ok false

/-- An attach that comes as far as its record. -/
def ComesToRecord (params : Params) : Prop :=
  params.state = DesiredState.attached ∧
    Tls.enforceTransportPolicy params.useTls params.allowInsecureTransport =
      Except.ok () ∧
    enforceRedirectionTrustPolicy params = Except.ok ()

section Calls

variable {c : Controller} {params : Params}

theorem unaffected_refl (c : Controller) : Unaffected c c := ⟨rfl, rfl, rfl⟩

theorem perform_looks (c : Controller) (o : SystemOp) (h : Looks o) :
    (perform c o).2 = c := by
  cases o with
  | unlink _ => exact h.elim
  | createExclusive _ _ => exact h.elim
  | fork _ => exact h.elim
  | kill pid signal =>
      cases h
      rfl
  | _ => rfl

theorem carry_looks {alpha : Type} {x : MediaScript alpha}
    (hx : Script.Uses Looks x) : (Script.carry perform c x).2 = c :=
  Script.carry_same perform_looks hx

theorem carry_looks_bind {alpha beta : Type} {x : MediaScript alpha}
    {f : alpha -> MediaScript beta} (hx : Script.Uses Looks x) :
    Script.carry perform c (x >>= f) =
      match (Script.carry perform c x).1 with
      | Except.ok a => Script.carry perform c (f a)
      | Except.error e => (Except.error e, c) := by
  have hsame : (Script.carry perform c x).2 = c := carry_looks hx
  cases hresult : Script.carry perform c x with
  | mk result c' =>
      rw [hresult] at hsame
      cases hsame
      cases result with
      | ok a => exact Script.carry_bind_ok hresult
      | error e => exact Script.carry_bind_error hresult

theorem uses_liveSession (record : Members) :
    Script.Uses Looks (liveSession record) := by
  apply Script.uses_bind (uses_isPidAlive _)
  intro alive
  split
  · exact Script.uses_bind (uses_ofResult _) fun _ => trivial
  · trivial

theorem carry_validate_rejected {allowedDirectory : Option String}
    {specs : List MediaSpec} (h : exists spec, spec ∈ specs ∧
      exists e, MediaImage.openImage c.disk spec.path spec.deviceCode
        spec.writable allowedDirectory = Except.error e) :
    exists e, (Script.carry perform c
      (validateMediaSpecs allowedDirectory specs)).1 = Except.error e := by
  induction specs with
  | nil =>
      rcases h with ⟨spec, hmem, _⟩
      cases hmem
  | cons first rest ih =>
      rw [validateMediaSpecs, Script.ask_bind, Script.carry]
      simp only [perform]
      cases hopened : MediaImage.openImage c.disk first.path first.deviceCode
          first.writable allowedDirectory with
      | error e => exact ⟨_, rfl⟩
      | ok image =>
          apply ih
          rcases h with ⟨spec, hmem, e, he⟩
          rcases List.mem_cons.mp hmem with heq | hmem
          · rw [heq, hopened] at he
            cases he
          · exact ⟨spec, hmem, e, he⟩

theorem carry_attachFresh (hquiet : params.checkMode = true ∨
      RejectsMedia params c.disk) (looks : Nat) (endpoint session : String)
    (port : Int) (existing : Option Members) :
    (Script.carry perform c
      (attachFresh looks params endpoint session port existing)).2 = c := by
  rw [attachFresh, carry_looks_bind (uses_ofAmt _)]
  cases hspecs : buildMediaSpecs params with
  | error e => rfl
  | ok specs =>
      change (Script.carry perform c
        (validateMediaSpecs params.allowedDirectory specs >>= _)).2 = c
      rw [carry_looks_bind (uses_validateMediaSpecs _ _)]
      split
      · rename_i hvalid
        rcases hquiet with hcheck | hrejected
        · rw [if_pos hcheck]
          rfl
        · rw [RejectsMedia, hspecs] at hrejected
          rcases carry_validate_rejected hrejected with ⟨e, he⟩
          rw [hvalid] at he
          cases he
      · rfl

/-- What the removal of a session's files leaves behind. -/
structure Removed (dir session : String) (c c' : Controller) : Prop where
  state : c'.files (SessionFile.state dir session) =
    (c.unlink (SessionFile.state dir session)).2.files
      (SessionFile.state dir session)
  disk : c'.disk = c.disk

theorem carry_unlinkIfThere (c : Controller) (file : SessionFile) :
    (Script.carry perform c (unlinkIfThere file)).2 = (c.unlink file).2 := by
  change (Script.carry perform (c.unlink file).2
    (suppressNotFound (c.unlink file).1)).2 = _
  cases (c.unlink file).1 with
  | ok _ => rfl
  | error e => cases e <;> rfl

theorem unlink_disk (c : Controller) (file : SessionFile) :
    (c.unlink file).2.disk = c.disk := by
  rw [Controller.unlink]
  cases c.files file <;> rfl

theorem unlink_others (c : Controller) {file other : SessionFile}
    (h : other ≠ file) : (c.unlink file).2.files other = c.files other := by
  rw [Controller.unlink]
  cases c.files file with
  | error e => rfl
  | ok raw => exact Function.update_of_ne h _ _

theorem carry_removeState (c : Controller) (dir session : String) :
    Removed dir session c
      (Script.carry perform c (removeState dir session)).2 := by
  have hstate := carry_unlinkIfThere c (SessionFile.state dir session)
  cases hresult : Script.carry perform c
      (unlinkIfThere (SessionFile.state dir session)) with
  | mk result c' =>
      rw [hresult] at hstate
      cases hstate
      cases result with
      | error e =>
          rw [removeState, Script.carry_bind_error hresult]
          exact ⟨rfl, unlink_disk c _⟩
      | ok _ =>
          rw [removeState, Script.carry_bind_ok hresult, carry_unlinkIfThere]
          constructor
          · apply unlink_others
            exact fun h => nomatch h
          · rw [unlink_disk, unlink_disk]

theorem carry_attach_stale (hquiet : params.checkMode = true ∨
      RejectsMedia params c.disk) (looks : Nat) (endpoint session : String)
    (port : Int) (existing : Option Members) :
    Removed params.runtimeDir session c
      (Script.carry perform c
        (removeState params.runtimeDir session >>= fun _ =>
          attachFresh looks params endpoint session port existing)).2 := by
  have hremoved := carry_removeState c params.runtimeDir session
  cases hresult : Script.carry perform c
      (removeState params.runtimeDir session) with
  | mk result c' =>
      rw [hresult] at hremoved
      cases result with
      | error e =>
          rw [Script.carry_bind_error hresult]
          exact hremoved
      | ok _ =>
          rw [← hremoved.disk] at hquiet
          rw [Script.carry_bind_ok hresult, carry_attachFresh hquiet]
          exact hremoved

theorem carry_attachSession (c : Controller) (params : Params) :
    Script.carry perform c (attachSession params) =
      (Except.ok ((given params.sessionId).getD c.uuid), c) := by
  rw [attachSession]
  cases given params.sessionId <;> rfl

theorem found_eq (c : Controller) (params : Params) :
    c.found params = (Script.carry perform c (parseRead params.interpreter
      (c.files (SessionFile.state params.runtimeDir
        ((given params.sessionId).getD c.uuid))))).1 := rfl

theorem found_content {record : Members}
    (h : c.found params = Except.ok (some record)) :
    exists raw, c.files (SessionFile.state params.runtimeDir
      ((given params.sessionId).getD c.uuid)) = Except.ok raw := by
  rw [found_eq] at h
  cases hfile : c.files (SessionFile.state params.runtimeDir
      ((given params.sessionId).getD c.uuid)) with
  | ok raw => exact ⟨raw, rfl⟩
  | error e =>
      rw [hfile] at h
      cases e <;> cases h

theorem removed_affects {dir session : String} {c' : Controller} {raw : Bytes}
    (hfile : c.files (SessionFile.state dir session) = Except.ok raw)
    (h : Removed dir session c c') : ¬ Unaffected c c' := by
  intro hsame
  have hstate := h.state
  rw [hsame.files, Controller.unlink, hfile] at hstate
  dsimp only at hstate
  rw [Function.update_self] at hstate
  cases hstate

theorem carry_attach (hquiet : params.checkMode = true ∨
      RejectsMedia params c.disk) (looks : Nat) (endpoint : String)
    (port : Int) :
    Unaffected c
        (Script.carry perform c (attach looks params endpoint port)).2 ↔
      ¬ c.FindsStale params := by
  rw [attach, Script.carry_bind_ok (carry_attachSession c params),
    carry_looks_bind (uses_readState _ _ _)]
  have hfound : (Script.carry perform c
      (readState params.interpreter params.runtimeDir
        ((given params.sessionId).getD c.uuid))).1 = c.found params := rfl
  have hnone : (forall record, c.found params ≠ Except.ok (some record)) ->
      ¬ c.FindsStale params := by
    intro hnot hstale
    rcases hstale with ⟨record, hrecord, _⟩
    exact hnot record hrecord
  rw [hfound]
  cases hexisting : c.found params with
  | error e =>
      apply iff_of_true (unaffected_refl c)
      apply hnone
      rw [hexisting]
      exact fun _ h => nomatch h
  | ok existing =>
      cases existing with
      | none =>
          dsimp only
          rw [carry_attachFresh hquiet]
          apply iff_of_true (unaffected_refl c)
          apply hnone
          rw [hexisting]
          exact fun _ h => nomatch h
      | some record =>
          dsimp only
          rw [carry_looks_bind (uses_liveSession record)]
          have hstale : c.FindsStale params ↔
              (Script.carry perform c (liveSession record)).1 =
                Except.ok false := by
            constructor
            · intro h
              rcases h with ⟨other, hother, hdead⟩
              rw [hexisting] at hother
              cases hother
              exact hdead
            · exact fun h => ⟨record, hexisting, h⟩
          rw [hstale]
          cases hlive : (Script.carry perform c (liveSession record)).1 with
          | error e => exact iff_of_true (unaffected_refl c) fun h => nomatch h
          | ok live =>
              cases live with
              | true =>
                  dsimp only
                  rw [if_pos rfl, carry_looks (uses_attachedResult _ _ _)]
                  exact iff_of_true (unaffected_refl c) fun h => nomatch h
              | false =>
                  rcases found_content hexisting with ⟨raw, hraw⟩
                  apply iff_of_false
                  · exact removed_affects hraw
                      (carry_attach_stale hquiet looks endpoint _ port _)
                  · exact fun h => h rfl

theorem carry_detach (hcheck : params.checkMode = true) (looks : Nat)
    (endpoint session : String) :
    (Script.carry perform c (detach looks params endpoint session)).2 = c := by
  apply carry_looks
  apply Script.uses_bind (uses_readState _ _ _)
  intro existing
  cases existing with
  | none => exact uses_reported _ _
  | some record =>
      dsimp only
      apply Script.uses_bind (uses_isPidAlive _)
      intro live
      rw [if_pos hcheck]
      exact uses_reported _ _

theorem after_operate (looks : Nat) (params : Params) :
    c.after looks params =
      (Script.carry perform c (operate looks params)).2 := by
  apply Script.carry_handle
  intro e w
  cases e <;> rfl

theorem after_attach (hcomes : ComesToRecord params) (looks : Nat) :
    c.after looks params =
      (Script.carry perform c (attach looks params
        (params.host ++ ":" ++
          toString (resolveRedirectionPort params.port params.useTls))
        (resolveRedirectionPort params.port params.useTls))).2 := by
  rcases hcomes with ⟨hstate, htransport, htrust⟩
  rw [after_operate, operate, hstate]
  dsimp only
  rw [htransport, htrust]
  rfl

/-- A call in check mode and a rejected attach leave files and processes alone
exactly when there is no stale record to clear away. -/
theorem quiet_unaffected_iff (looks : Nat)
    (hquiet : Quiet params c.disk) :
    Unaffected c (c.after looks params) ↔
      ¬ (ComesToRecord params ∧ c.FindsStale params) := by
  have hmedia : params.state = DesiredState.attached ->
      params.checkMode = true ∨ RejectsMedia params c.disk := by
    intro _
    rcases hquiet with hcheck | ⟨_, hrejected⟩
    · exact Or.inl hcheck
    · exact Or.inr hrejected
  by_cases hcomes : ComesToRecord params
  · rw [after_attach hcomes, carry_attach (hmedia hcomes.1)]
    exact not_congr ⟨fun h => ⟨hcomes, h⟩, fun h => h.2⟩
  · apply iff_of_true
    · have hsame : c.after looks params = c := by
        rw [after_operate, operate]
        cases hstate : params.state with
        | detached =>
            apply carry_detach
            rcases hquiet with hcheck | ⟨hattached, _⟩
            · exact hcheck
            · rw [hstate] at hattached
              cases hattached
        | attached =>
            dsimp only
            cases htransport : Tls.enforceTransportPolicy params.useTls
                params.allowInsecureTransport with
            | error e => rfl
            | ok _ =>
                cases htrust : enforceRedirectionTrustPolicy params with
                | error e => rfl
                | ok _ => exact absurd ⟨hstate, htransport, htrust⟩ hcomes
      rw [hsame]
      exact unaffected_refl c
    · exact fun h => hcomes h.1

end Calls

/-!
## A stale record
-/

def plannedParams : Params where
  host := "amt"
  useTls := false
  allowInsecureTransport := true
  floppy := some "/disk.img"
  state := DesiredState.attached
  sessionId := some "s"
  runtimeDir := "/run"
  checkMode := true

/-- A controller whose runtime directory holds one file, and which runs no
process. -/
def idleController (file : SessionFile) (content : Except FileError Bytes) :
    Controller where
  files := Function.update (fun _ => Except.error FileError.notFound) file
    content
  processes _ := KillResult.noSuchProcess
  disk :=
    { isSymlink := fun _ => false
      resolve := fun _ => some ["disk.img"]
      file := fun _ => []
      openable := fun _ _ => true
      shortReads := fun _ => [] }
  uuid := "u"

/-- The session that the daemon with pid 100 serves. -/
def servedRecord : StateRecord :=
  { initialState "s" "amt:16994" 100 "t" with state := SessionState.attached }

theorem servedRecord_dumped : servedRecord.Dumped where
  pid := by decide
  devices := fun entry h => by cases h

/-- A planned attach where the session is served. -/
theorem planned_unaffected :
    let c := { idleController (SessionFile.state "/run" "s")
        (Except.ok (stateBytes servedRecord)) with
      processes := fun _ => KillResult.delivered }
    c.found plannedParams =
        Except.ok (some (recordMembers servedRecord)) ∧
      Unaffected c (c.after 1 plannedParams) := by
  intro c
  have hfile : c.files (SessionFile.state "/run" "s") =
      Except.ok (stateBytes servedRecord) := by
    simp [c, idleController]
  have hfound : c.found plannedParams =
      Except.ok (some (recordMembers servedRecord)) := by
    have hsession : (given plannedParams.sessionId).getD c.uuid = "s" := rfl
    have hdir : plannedParams.runtimeDir = "/run" := rfl
    rw [found_eq, hsession, hdir, hfile,
      parseRead_stateBytes servedRecord_dumped]
    rfl
  refine ⟨hfound, (quiet_unaffected_iff 1 (Or.inl rfl)).mpr ?_⟩
  rintro ⟨_, record, hrecord, hdead⟩
  rw [hfound] at hrecord
  cases hrecord
  rw [liveSession, get_pid] at hdead
  cases hdead

/-- A planned attach removes the record that a daemon has left. -/
theorem planned_affected :
    let c := idleController (SessionFile.state "/run" "s")
      (Except.ok (stateBytes (initialState "s" "amt:16994" 100 "t")))
    ¬ Unaffected c (c.after 1 plannedParams) := by
  intro c
  have hcomes : ComesToRecord plannedParams := ⟨rfl, rfl, rfl⟩
  rw [after_attach hcomes, carry_attach (Or.inl rfl)]
  have hfile : c.files (SessionFile.state "/run" "s") = Except.ok
      (stateBytes (initialState "s" "amt:16994" 100 "t")) := by
    simp [c, idleController]
  have hfound : c.found plannedParams = Except.ok
      (some (recordMembers (initialState "s" "amt:16994" 100 "t"))) := by
    have hsession : (given plannedParams.sessionId).getD c.uuid = "s" := rfl
    have hdir : plannedParams.runtimeDir = "/run" := rfl
    rw [found_eq, hsession, hdir, hfile,
      parseRead_stateBytes (initialState_dumped (by decide) _ _ _)]
    rfl
  have hdead : (Script.carry perform c
      (liveSession (recordMembers (initialState "s" "amt:16994" 100 "t")))).1 =
        Except.ok false := by
    rw [liveSession, get_pid]
    rfl
  exact fun hfresh => hfresh ⟨_, hfound, hdead⟩

end AmtMedia
end IntelAmt
